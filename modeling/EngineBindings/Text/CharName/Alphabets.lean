/-! Names of letters of the living alphabets.

The lines are written as `CharName.entries` reads them, in the order of the code points.
They go from the signs of every keyboard to the Greek letters with their old accents. -/
namespace EngineBindings.Text.CharName

/-- Names up to the code point 1FFF. -/
def alphabets : List String := [
    "20aSPACEaEXCLAMATION MARKnQUOTATION aNUMBER SIGNnDOLLAR nPERCENT aAMPERSANDaAPOSTROPHE",
    "aLEFT PARENTHESISnRIGHT aASTERISKaPLUS SIGNaCOMMAaHYPHEN-MINUSaFULL STOPaSOLIDUSaDIGIT ZERO",
    "bONEbTWObTHREEbFOURbFIVEbSIXbSEVENbEIGHTbNINEaCOLONaSEMICOLONaLESS-THAN SIGNaEQUALS SIGN",
    "aGREATER-THAN SIGNaQUESTION MARKaCOMMERCIAL ATaLATIN CAPITAL LETTER AdBdCdDdEdFdGdHdIdJdKdLdM",
    "dNdOdPdQdRdSdTdUdVdWdXdYdZaLEFT SQUARE BRACKETaREVERSE SOLIDUSaRIGHT SQUARE BRACKET",
    "aCIRCUMFLEX ACCENTaLOW LINEaGRAVE ACCENTaLATIN SMALL LETTER AdBdCdDdEdFdGdHdIdJdKdLdMdNdOdPdQ",
    "dRdSdTdUdVdWdXdYdZaLEFT CURLY BRACKETaVERTICAL LINEaRIGHT CURLY BRACKETaTILDE",
    "A0aNO-BREAK SPACEaINVERTED EXCLAMATION MARKaCENT SIGNnPOUND nCURRENCY nYEN aBROKEN BAR",
    "aSECTION SIGNaDIAERESISaCOPYRIGHT SIGNaFEMININE ORDINAL INDICATOR",
    "aLEFT-POINTING DOUBLE ANGLE QUOTATION MARKaNOT SIGNaSOFT HYPHENaREGISTERED SIGNaMACRON",
    "aDEGREE SIGNaPLUS-MINUS SIGNaSUPERSCRIPT TWObTHREEaACUTE ACCENTaMICRO SIGNnPILCROW ",
    "aMIDDLE DOTaCEDILLAaSUPERSCRIPT ONEaMASCULINE ORDINAL INDICATOR",
    "aRIGHT-POINTING DOUBLE ANGLE QUOTATION MARKaVULGAR FRACTION ONE QUARTERdHALFcTHREE QUARTERS",
    "aINVERTED QUESTION MARKaLATIN CAPITAL LETTER A WITH GRAVEfACUTEfCIRCUMFLEXfTILDEfDIAERESIS",
    "fRING ABOVEdAEdC WITH CEDILLAdE WITH GRAVEfACUTEfCIRCUMFLEXfDIAERESISdI WITH GRAVEfACUTE",
    "fCIRCUMFLEXfDIAERESISdETHdN WITH TILDEdO WITH GRAVEfACUTEfCIRCUMFLEXfTILDEfDIAERESIS",
    "aMULTIPLICATION SIGNaLATIN CAPITAL LETTER O WITH STROKEdU WITH GRAVEfACUTEfCIRCUMFLEX",
    "fDIAERESISdY WITH ACUTEdTHORNbSMALL LETTER SHARP SdA WITH GRAVEfACUTEfCIRCUMFLEXfTILDE",
    "fDIAERESISfRING ABOVEdAEdC WITH CEDILLAdE WITH GRAVEfACUTEfCIRCUMFLEXfDIAERESISdI WITH GRAVE",
    "fACUTEfCIRCUMFLEXfDIAERESISdETHdN WITH TILDEdO WITH GRAVEfACUTEfCIRCUMFLEXfTILDEfDIAERESIS",
    "aDIVISION SIGNaLATIN SMALL LETTER O WITH STROKEdU WITH GRAVEfACUTEfCIRCUMFLEXfDIAERESIS",
    "dY WITH ACUTEdTHORNdY WITH DIAERESISbCAPITAL LETTER A WITH MACRONoSMALL ",
    "bCAPITAL LETTER A WITH BREVEoSMALL bCAPITAL LETTER A WITH OGONEKoSMALL ",
    "bCAPITAL LETTER C WITH ACUTEoSMALL bCAPITAL LETTER C WITH CIRCUMFLEXoSMALL ",
    "bCAPITAL LETTER C WITH DOT ABOVEoSMALL bCAPITAL LETTER C WITH CARONoSMALL oCAPITAL LETTER D ",
    "oSMALL bCAPITAL LETTER D WITH STROKEoSMALL bCAPITAL LETTER E WITH MACRONoSMALL ",
    "bCAPITAL LETTER E WITH BREVEoSMALL bCAPITAL LETTER E WITH DOT ABOVEoSMALL ",
    "bCAPITAL LETTER E WITH OGONEKoSMALL bCAPITAL LETTER E WITH CARONoSMALL ",
    "bCAPITAL LETTER G WITH CIRCUMFLEXoSMALL bCAPITAL LETTER G WITH BREVEoSMALL ",
    "bCAPITAL LETTER G WITH DOT ABOVEoSMALL bCAPITAL LETTER G WITH CEDILLAoSMALL ",
    "bCAPITAL LETTER H WITH CIRCUMFLEXoSMALL bCAPITAL LETTER H WITH STROKEoSMALL ",
    "bCAPITAL LETTER I WITH TILDEoSMALL bCAPITAL LETTER I WITH MACRONoSMALL ",
    "bCAPITAL LETTER I WITH BREVEoSMALL bCAPITAL LETTER I WITH OGONEKoSMALL ",
    "bCAPITAL LETTER I WITH DOT ABOVEbSMALL LETTER DOTLESS IbCAPITAL LIGATURE IJoSMALL ",
    "bCAPITAL LETTER J WITH CIRCUMFLEXoSMALL bCAPITAL LETTER K WITH CEDILLAoSMALL dKRA",
    "bCAPITAL LETTER L WITH ACUTEoSMALL bCAPITAL LETTER L WITH CEDILLAoSMALL ",
    "bCAPITAL LETTER L WITH CARONoSMALL bCAPITAL LETTER L WITH MIDDLE DOToSMALL ",
    "bCAPITAL LETTER L WITH STROKEoSMALL bCAPITAL LETTER N WITH ACUTEoSMALL ",
    "bCAPITAL LETTER N WITH CEDILLAoSMALL bCAPITAL LETTER N WITH CARONoSMALL ",
    "ePRECEDED BY APOSTROPHEbCAPITAL LETTER ENGoSMALL bCAPITAL LETTER O WITH MACRONoSMALL ",
    "bCAPITAL LETTER O WITH BREVEoSMALL bCAPITAL LETTER O WITH DOUBLE ACUTEoSMALL ",
    "bCAPITAL LIGATURE OEoSMALL bCAPITAL LETTER R WITH ACUTEoSMALL bCAPITAL LETTER R WITH CEDILLA",
    "oSMALL bCAPITAL LETTER R WITH CARONoSMALL bCAPITAL LETTER S WITH ACUTEoSMALL ",
    "bCAPITAL LETTER S WITH CIRCUMFLEXoSMALL bCAPITAL LETTER S WITH CEDILLAoSMALL ",
    "bCAPITAL LETTER S WITH CARONoSMALL bCAPITAL LETTER T WITH CEDILLAoSMALL ",
    "bCAPITAL LETTER T WITH CARONoSMALL bCAPITAL LETTER T WITH STROKEoSMALL ",
    "bCAPITAL LETTER U WITH TILDEoSMALL bCAPITAL LETTER U WITH MACRONoSMALL ",
    "bCAPITAL LETTER U WITH BREVEoSMALL bCAPITAL LETTER U WITH RING ABOVEoSMALL ",
    "bCAPITAL LETTER U WITH DOUBLE ACUTEoSMALL bCAPITAL LETTER U WITH OGONEKoSMALL ",
    "bCAPITAL LETTER W WITH CIRCUMFLEXoSMALL oCAPITAL LETTER Y oSMALL ",
    "bCAPITAL LETTER Y WITH DIAERESISdZ WITH ACUTEoSMALL bCAPITAL LETTER Z WITH DOT ABOVEoSMALL ",
    "bCAPITAL LETTER Z WITH CARONoSMALL dLONG SdB WITH STROKEbCAPITAL LETTER B WITH HOOKfTOPBAR",
    "oSMALL bCAPITAL LETTER TONE SIXoSMALL bCAPITAL LETTER OPEN OdC WITH HOOKoSMALL ",
    "bCAPITAL LETTER AFRICAN DdD WITH HOOKfTOPBARoSMALL dTURNED DELTAbCAPITAL LETTER REVERSED E",
    "dSCHWAdOPEN EdF WITH HOOKoSMALL oCAPITAL LETTER G dGAMMAbSMALL LETTER HVbCAPITAL LETTER IOTA",
    "dI WITH STROKEdK WITH HOOKoSMALL dL WITH BARdLAMBDA WITH STROKEbCAPITAL LETTER TURNED M",
    "dN WITH LEFT HOOKbSMALL LETTER N WITH LONG RIGHT LEGbCAPITAL LETTER O WITH MIDDLE TILDEfHORN",
    "oSMALL bCAPITAL LETTER OIoSMALL bCAPITAL LETTER P WITH HOOKoSMALL bLETTER YR",
    "bCAPITAL LETTER TONE TWOoSMALL bCAPITAL LETTER ESHbLETTER REVERSED ESH LOOP",
    "bSMALL LETTER T WITH PALATAL HOOKbCAPITAL LETTER T WITH HOOKoSMALL ",
    "bCAPITAL LETTER T WITH RETROFLEX HOOKdU WITH HORNoSMALL bCAPITAL LETTER UPSILONdV WITH HOOK",
    "qY oSMALL bCAPITAL LETTER Z WITH STROKEoSMALL bCAPITAL LETTER EZHdEZH REVERSEDoSMALL ",
    "eWITH TAILbLETTER TWO WITH STROKEbCAPITAL LETTER TONE FIVEoSMALL ",
    "bLETTER INVERTED GLOTTAL STOP WITH STROKEcWYNNcDENTAL CLICKpLATERAL pALVEOLAR pRETROFLEX ",
    "bCAPITAL LETTER DZ WITH CARONdD WITH SMALL LETTER Z WITH CARONbSMALL LETTER DZ WITH CARON",
    "bCAPITAL LETTER LJdL WITH SMALL LETTER JbSMALL LETTER LJbCAPITAL LETTER NJ",
    "dN WITH SMALL LETTER JbSMALL LETTER NJbCAPITAL LETTER A WITH CARONoSMALL oCAPITAL LETTER I ",
    "oSMALL oCAPITAL LETTER O oSMALL oCAPITAL LETTER U oSMALL ",
    "bCAPITAL LETTER U WITH DIAERESIS AND MACRONoSMALL bCAPITAL LETTER U WITH DIAERESIS AND ACUTE",
    "oSMALL bCAPITAL LETTER U WITH DIAERESIS AND CARONoSMALL ",
    "bCAPITAL LETTER U WITH DIAERESIS AND GRAVEoSMALL dTURNED E",
    "bCAPITAL LETTER A WITH DIAERESIS AND MACRONoSMALL bCAPITAL LETTER A WITH DOT ABOVE AND MACRON",
    "oSMALL bCAPITAL LETTER AE WITH MACRONoSMALL bCAPITAL LETTER G WITH STROKEoSMALL ",
    "bCAPITAL LETTER G WITH CARONoSMALL oCAPITAL LETTER K oSMALL bCAPITAL LETTER O WITH OGONEK",
    "oSMALL bCAPITAL LETTER O WITH OGONEK AND MACRONoSMALL bCAPITAL LETTER EZH WITH CARONoSMALL ",
    "qJ bCAPITAL LETTER DZdD WITH SMALL LETTER ZbSMALL LETTER DZbCAPITAL LETTER G WITH ACUTE",
    "oSMALL bCAPITAL LETTER HWAIRdWYNNdN WITH GRAVEoSMALL ",
    "bCAPITAL LETTER A WITH RING ABOVE AND ACUTEoSMALL bCAPITAL LETTER AE WITH ACUTEoSMALL ",
    "bCAPITAL LETTER O WITH STROKE AND ACUTEoSMALL bCAPITAL LETTER A WITH DOUBLE GRAVEoSMALL ",
    "bCAPITAL LETTER A WITH INVERTED BREVEoSMALL bCAPITAL LETTER E WITH DOUBLE GRAVEoSMALL ",
    "bCAPITAL LETTER E WITH INVERTED BREVEoSMALL bCAPITAL LETTER I WITH DOUBLE GRAVEoSMALL ",
    "bCAPITAL LETTER I WITH INVERTED BREVEoSMALL bCAPITAL LETTER O WITH DOUBLE GRAVEoSMALL ",
    "bCAPITAL LETTER O WITH INVERTED BREVEoSMALL bCAPITAL LETTER R WITH DOUBLE GRAVEoSMALL ",
    "bCAPITAL LETTER R WITH INVERTED BREVEoSMALL bCAPITAL LETTER U WITH DOUBLE GRAVEoSMALL ",
    "bCAPITAL LETTER U WITH INVERTED BREVEoSMALL bCAPITAL LETTER S WITH COMMA BELOWoSMALL ",
    "oCAPITAL LETTER T oSMALL bCAPITAL LETTER YOGHoSMALL bCAPITAL LETTER H WITH CARONoSMALL ",
    "bCAPITAL LETTER N WITH LONG RIGHT LEGbSMALL LETTER D WITH CURLbCAPITAL LETTER OUoSMALL ",
    "bCAPITAL LETTER Z WITH HOOKoSMALL bCAPITAL LETTER A WITH DOT ABOVEoSMALL ",
    "bCAPITAL LETTER E WITH CEDILLAoSMALL bCAPITAL LETTER O WITH DIAERESIS AND MACRONoSMALL ",
    "oCAPITAL LETTER O WITH TILDE oSMALL bCAPITAL LETTER O WITH DOT ABOVEoSMALL ",
    "bCAPITAL LETTER O WITH DOT ABOVE AND MACRONoSMALL bCAPITAL LETTER Y WITH MACRONoSMALL ",
    "dL WITH CURLqN qT dDOTLESS JdDB DIGRAPHqQP bCAPITAL LETTER A WITH STROKEqC oSMALL ",
    "bCAPITAL LETTER L WITH BARdT WITH DIAGONAL STROKEbSMALL LETTER S WITH SWASH TAILqZ ",
    "bCAPITAL LETTER GLOTTAL STOPoSMALL bCAPITAL LETTER B WITH STROKEdU BARdTURNED VdE WITH STROKE",
    "oSMALL oCAPITAL LETTER J oSMALL bCAPITAL LETTER SMALL Q WITH HOOK TAIL",
    "bSMALL LETTER Q WITH HOOK TAILbCAPITAL LETTER R WITH STROKEoSMALL oCAPITAL LETTER Y oSMALL ",
    "dTURNED AdALPHAdTURNED ALPHAdB WITH HOOKdOPEN OdC WITH CURLdD WITH TAILfHOOKdREVERSED EdSCHWA",
    "dSCHWA WITH HOOKdOPEN EdREVERSED OPEN EfE WITH HOOKdCLOSED REVERSED OPEN E",
    "dDOTLESS J WITH STROKEdG WITH HOOKdSCRIPT GoLETTER SMALL CAPITAL bSMALL LETTER GAMMA",
    "dRAMS HORNdTURNED HdH WITH HOOKqHENG dI WITH STROKEdIOTAbLETTER SMALL CAPITAL I",
    "bSMALL LETTER L WITH MIDDLE TILDEfBELTfRETROFLEX HOOKdLEZHdTURNED MeM WITH LONG LEG",
    "dM WITH HOOKdN WITH LEFT HOOKsRETROFLEX bLETTER SMALL CAPITAL NbSMALL LETTER BARRED O",
    "bLETTER SMALL CAPITAL OEbSMALL LETTER CLOSED OMEGAdPHIdTURNED ReR WITH LONG LEGgHOOK",
    "dR WITH LONG LEGfTAILfFISHHOOKdREVERSED R WITH FISHHOOKbLETTER SMALL CAPITAL ReINVERTED R",
    "bSMALL LETTER S WITH HOOKdESHdDOTLESS J WITH STROKE AND HOOKdSQUAT REVERSED ESHdESH WITH CURL",
    "dTURNED TdT WITH RETROFLEX HOOKdU BARdUPSILONdV WITH HOOKdTURNED VeWeYoLETTER SMALL CAPITAL ",
    "bSMALL LETTER Z WITH RETROFLEX HOOKfCURLdEZHdEZH WITH CURLbLETTER GLOTTAL STOP",
    "cPHARYNGEAL VOICED FRICATIVEcINVERTED GLOTTAL STOPcSTRETCHED CcBILABIAL CLICKcSMALL CAPITAL B",
    "bSMALL LETTER CLOSED OPEN EbLETTER SMALL CAPITAL G WITH HOOKeH",
    "bSMALL LETTER J WITH CROSSED-TAILdTURNED KbLETTER SMALL CAPITAL LbSMALL LETTER Q WITH HOOK",
    "bLETTER GLOTTAL STOP WITH STROKEcREVERSED GLOTTAL STOP WITH STROKEbSMALL LETTER DZ DIGRAPH",
    "qDEZH dDZ DIGRAPH WITH CURLdTS DIGRAPHqTESH dTC DIGRAPH WITH CURLdFENG DIGRAPHqLS qLZ ",
    "bLETTER BILABIAL PERCUSSIVEpBIDENTAL bSMALL LETTER TURNED H WITH FISHHOOKgFISHHOOK AND TAIL",
    "aMODIFIER LETTER SMALL HdH WITH HOOKdJdRdTURNED ReR WITH HOOKdCAPITAL INVERTED RdWdYcPRIME",
    "cDOUBLE PRIMEcTURNED COMMAcAPOSTROPHEcREVERSED COMMAcRIGHT HALF RINGpLEFT cGLOTTAL STOP",
    "cREVERSED GLOTTAL STOPcLEFT ARROWHEADpRIGHT pUP pDOWN cCIRCUMFLEX ACCENTaCARON",
    "aMODIFIER LETTER VERTICAL LINEcMACRONcACUTE ACCENTpGRAVE cLOW VERTICAL LINEdMACRON",
    "dGRAVE ACCENTqACUTE cTRIANGULAR COLONcHALF TRIANGULAR COLONcCENTRED RIGHT HALF RINGqLEFT ",
    "cUP TACKpDOWN cPLUS SIGNpMINUS aBREVEaDOT ABOVEnRING aOGONEKaSMALL TILDEaDOUBLE ACUTE ACCENT",
    "aMODIFIER LETTER RHOTIC HOOKcCROSS ACCENTcSMALL GAMMAdLdSdXdREVERSED GLOTTAL STOP",
    "cEXTRA-HIGH TONE BARcHIGH TONE BARpMID pLOW cEXTRA-LOW TONE BARcYIN DEPARTING TONE MARKpYANG ",
    "cVOICINGcUNASPIRATEDcDOUBLE APOSTROPHEcLOW DOWN ARROWHEADqUP qLEFT qRIGHT dRING",
    "cMIDDLE GRAVE ACCENTdDOUBLE GRAVE ACCENTrACUTE cLOW TILDEcRAISED COLONcBEGIN HIGH TONEpEND ",
    "pBEGIN LOW pEND cSHELFcOPEN SHELFcLOW LEFT ARROWaCOMBINING GRAVE ACCENToACUTE oCIRCUMFLEX ",
    "bTILDEbMACRONbOVERLINEbBREVEbDOT ABOVEbDIAERESISbHOOK ABOVEoRING bDOUBLE ACUTE ACCENTbCARON",
    "bVERTICAL LINE ABOVEbDOUBLE VERTICAL LINE ABOVEcGRAVE ACCENTbCANDRABINDUbINVERTED BREVE",
    "bTURNED COMMA ABOVEbCOMMA ABOVEbREVERSED COMMA ABOVEbCOMMA ABOVE RIGHTbGRAVE ACCENT BELOW",
    "oACUTE oLEFT TACK oRIGHT bLEFT ANGLE ABOVEbHORNbLEFT HALF RING BELOWbUP TACK BELOWoDOWN ",
    "oPLUS SIGN oMINUS oPALATALIZED HOOK oRETROFLEX bDOT BELOWoDIAERESIS oRING oCOMMA bCEDILLA",
    "bOGONEKbVERTICAL LINE BELOWbBRIDGE BELOWbINVERTED DOUBLE ARCH BELOWbCARON BELOW",
    "bCIRCUMFLEX ACCENT BELOWbBREVE BELOWbINVERTED BREVE BELOWbTILDE BELOWoMACRON bLOW LINE",
    "bDOUBLE LOW LINEbTILDE OVERLAYbSHORT STROKE OVERLAYoLONG oSHORT SOLIDUS oLONG ",
    "bRIGHT HALF RING BELOWbINVERTED BRIDGE BELOWbSQUARE BELOWoSEAGULL bX ABOVEbVERTICAL TILDE",
    "bDOUBLE OVERLINEbGRAVE TONE MARKoACUTE bGREEK PERISPOMENIcKORONIScDIALYTIKA TONOS",
    "cYPOGEGRAMMENIbBRIDGE ABOVEbEQUALS SIGN BELOWbDOUBLE VERTICAL LINE BELOWbLEFT ANGLE BELOW",
    "bNOT TILDE ABOVEbHOMOTHETIC ABOVEbALMOST EQUAL TO ABOVEbLEFT RIGHT ARROW BELOW",
    "bUPWARDS ARROW BELOWbGRAPHEME JOINERbRIGHT ARROWHEAD ABOVEbLEFT HALF RING ABOVEbFERMATA",
    "bX BELOWbLEFT ARROWHEAD BELOWoRIGHT dAND UP ARROWHEAD BELOWcHALF RING ABOVEbDOT ABOVE RIGHT",
    "bASTERISK BELOWbDOUBLE RING BELOWbZIGZAG ABOVEbDOUBLE BREVE BELOWcBREVEcMACRONcMACRON BELOW",
    "cTILDEcINVERTED BREVEcRIGHTWARDS ARROW BELOWbLATIN SMALL LETTER AeEeIeOeUeCeDeHeMeReTeVeX",
    "aGREEK CAPITAL LETTER HETAoSMALL bCAPITAL LETTER ARCHAIC SAMPIoSMALL bNUMERAL SIGN",
    "bLOWER NUMERAL SIGNbCAPITAL LETTER PAMPHYLIAN DIGAMMAoSMALL ",
    "37AbYPOGEGRAMMENIbSMALL REVERSED LUNATE SIGMA SYMBOLpDOTTED ",
    "cREVERSED DOTTED LUNATE SIGMA SYMBOLbQUESTION MARKbCAPITAL LETTER YOT",
    "384bTONOSbDIALYTIKA TONOSbCAPITAL LETTER ALPHA WITH TONOSbANO TELEIA",
    "bCAPITAL LETTER EPSILON WITH TONOSqETA qIOTA ", "38CqOMICRON ",
    "38EqUPSILON qOMEGA bSMALL LETTER IOTA WITH DIALYTIKA AND TONOSbCAPITAL LETTER ALPHAdBETA",
    "dGAMMAdDELTAdEPSILONdZETAdETAdTHETAdIOTAdKAPPAdLAMDAdMUdNUdXIdOMICRONdPIdRHO",
    "3A3dSIGMAdTAUdUPSILONdPHIdCHIdPSIdOMEGAdIOTA WITH DIALYTIKAqUPSILON ",
    "bSMALL LETTER ALPHA WITH TONOSqEPSILON qETA qIOTA dUPSILON WITH DIALYTIKA AND TONOSdALPHA",
    "dBETAdGAMMAdDELTAdEPSILONdZETAdETAdTHETAdIOTAdKAPPAdLAMDAdMUdNUdXIdOMICRONdPIdRHOdFINAL SIGMA",
    "dSIGMAdTAUdUPSILONdPHIdCHIdPSIdOMEGAdIOTA WITH DIALYTIKAqUPSILON dOMICRON WITH TONOSqUPSILON ",
    "qOMEGA bCAPITAL KAI SYMBOLbBETA SYMBOLoTHETA bUPSILON WITH HOOK SYMBOLdACUTE AND HOOK SYMBOL",
    "qDIAERESIS bPHI SYMBOLoPI oKAI bLETTER ARCHAIC KOPPAbSMALL LETTER ARCHAIC KOPPAbLETTER STIGMA",
    "bSMALL LETTER STIGMAbLETTER DIGAMMAbSMALL LETTER DIGAMMAbLETTER KOPPAbSMALL LETTER KOPPA",
    "bLETTER SAMPIbSMALL LETTER SAMPIaCOPTIC CAPITAL LETTER SHEIoSMALL bCAPITAL LETTER FEIoSMALL ",
    "bCAPITAL LETTER KHEIoSMALL bCAPITAL LETTER HORIoSMALL bCAPITAL LETTER GANGIAoSMALL ",
    "bCAPITAL LETTER SHIMAoSMALL bCAPITAL LETTER DEIoSMALL aGREEK KAPPA SYMBOLoRHO ",
    "bLUNATE SIGMA SYMBOLbLETTER YOTbCAPITAL THETA SYMBOLoLUNATE EPSILON ",
    "bREVERSED LUNATE EPSILON SYMBOLbCAPITAL LETTER SHOoSMALL bCAPITAL LUNATE SIGMA SYMBOL",
    "cLETTER SANoSMALL bRHO WITH STROKE SYMBOLbCAPITAL REVERSED LUNATE SIGMA SYMBOLpDOTTED ",
    "cREVERSED DOTTED LUNATE SIGMA SYMBOLaCYRILLIC CAPITAL LETTER IE WITH GRAVEdIOdDJEdGJE",
    "dUKRAINIAN IEdDZEdBYELORUSSIAN-UKRAINIAN IdYIdJEdLJEdNJEdTSHEdKJEdI WITH GRAVEdSHORT UdDZHEdA",
    "dBEdVEdGHEdDEdIEdZHEdZEdIdSHORT IdKAdELdEMdENdOdPEdERdESdTEdUdEFdHAdTSEdCHEdSHAdSHCHA",
    "dHARD SIGNdYERUdSOFT SIGNdEdYUdYAbSMALL LETTER AdBEdVEdGHEdDEdIEdZHEdZEdIdSHORT IdKAdELdEMdEN",
    "dOdPEdERdESdTEdUdEFdHAdTSEdCHEdSHAdSHCHAdHARD SIGNdYERUdSOFT SIGNdEdYUdYAdIE WITH GRAVEdIO",
    "dDJEdGJEdUKRAINIAN IEdDZEdBYELORUSSIAN-UKRAINIAN IdYIdJEdLJEdNJEdTSHEdKJEdI WITH GRAVE",
    "dSHORT UdDZHEbCAPITAL LETTER OMEGAoSMALL bCAPITAL LETTER YAToSMALL bCAPITAL LETTER IOTIFIED E",
    "oSMALL bCAPITAL LETTER LITTLE YUSoSMALL bCAPITAL LETTER IOTIFIED LITTLE YUSoSMALL ",
    "bCAPITAL LETTER BIG YUSoSMALL bCAPITAL LETTER IOTIFIED BIG YUSoSMALL bCAPITAL LETTER KSI",
    "oSMALL bCAPITAL LETTER PSIoSMALL bCAPITAL LETTER FITAoSMALL bCAPITAL LETTER IZHITSAoSMALL ",
    "bCAPITAL LETTER IZHITSA WITH DOUBLE GRAVE ACCENToSMALL bCAPITAL LETTER UKoSMALL ",
    "bCAPITAL LETTER ROUND OMEGAoSMALL bCAPITAL LETTER OMEGA WITH TITLOoSMALL bCAPITAL LETTER OT",
    "oSMALL bCAPITAL LETTER KOPPAoSMALL bTHOUSANDS SIGNaCOMBINING CYRILLIC TITLOcPALATALIZATION",
    "cDASIA PNEUMATApPSILI cPOKRYTIEcHUNDRED THOUSANDS SIGNcMILLIONS SIGN",
    "aCYRILLIC CAPITAL LETTER SHORT I WITH TAILoSMALL bCAPITAL LETTER SEMISOFT SIGNoSMALL ",
    "bCAPITAL LETTER ER WITH TICKoSMALL bCAPITAL LETTER GHE WITH UPTURNoSMALL ",
    "bCAPITAL LETTER GHE WITH STROKEoSMALL bCAPITAL LETTER GHE WITH MIDDLE HOOKoSMALL ",
    "bCAPITAL LETTER ZHE WITH DESCENDERoSMALL oCAPITAL LETTER ZE oSMALL oCAPITAL LETTER KA oSMALL ",
    "bCAPITAL LETTER KA WITH VERTICAL STROKEoSMALL bCAPITAL LETTER KA WITH STROKEoSMALL ",
    "bCAPITAL LETTER BASHKIR KAoSMALL bCAPITAL LETTER EN WITH DESCENDERoSMALL ",
    "bCAPITAL LIGATURE EN GHEoSMALL bCAPITAL LETTER PE WITH MIDDLE HOOKoSMALL ",
    "bCAPITAL LETTER ABKHASIAN HAoSMALL bCAPITAL LETTER ES WITH DESCENDERoSMALL ",
    "oCAPITAL LETTER TE oSMALL bCAPITAL LETTER STRAIGHT UoSMALL ",
    "bCAPITAL LETTER STRAIGHT U WITH STROKEoSMALL bCAPITAL LETTER HA WITH DESCENDERoSMALL ",
    "bCAPITAL LIGATURE TE TSEoSMALL bCAPITAL LETTER CHE WITH DESCENDERoSMALL ",
    "bCAPITAL LETTER CHE WITH VERTICAL STROKEoSMALL bCAPITAL LETTER SHHAoSMALL ",
    "bCAPITAL LETTER ABKHASIAN CHEoSMALL bCAPITAL LETTER ABKHASIAN CHE WITH DESCENDERoSMALL ",
    "bLETTER PALOCHKAbCAPITAL LETTER ZHE WITH BREVEoSMALL bCAPITAL LETTER KA WITH HOOKoSMALL ",
    "bCAPITAL LETTER EL WITH TAILoSMALL bCAPITAL LETTER EN WITH HOOKoSMALL ",
    "bCAPITAL LETTER EN WITH TAILoSMALL bCAPITAL LETTER KHAKASSIAN CHEoSMALL ",
    "bCAPITAL LETTER EM WITH TAILoSMALL dPALOCHKAbCAPITAL LETTER A WITH BREVEoSMALL ",
    "bCAPITAL LETTER A WITH DIAERESISoSMALL bCAPITAL LIGATURE A IEoSMALL ",
    "bCAPITAL LETTER IE WITH BREVEoSMALL bCAPITAL LETTER SCHWAoSMALL ",
    "bCAPITAL LETTER SCHWA WITH DIAERESISoSMALL oCAPITAL LETTER ZHE oSMALL oCAPITAL LETTER ZE ",
    "oSMALL bCAPITAL LETTER ABKHASIAN DZEoSMALL bCAPITAL LETTER I WITH MACRONoSMALL ",
    "bCAPITAL LETTER I WITH DIAERESISoSMALL oCAPITAL LETTER O oSMALL bCAPITAL LETTER BARRED O",
    "oSMALL bCAPITAL LETTER BARRED O WITH DIAERESISoSMALL bCAPITAL LETTER E WITH DIAERESISoSMALL ",
    "bCAPITAL LETTER U WITH MACRONoSMALL bCAPITAL LETTER U WITH DIAERESISoSMALL ",
    "bCAPITAL LETTER U WITH DOUBLE ACUTEoSMALL bCAPITAL LETTER CHE WITH DIAERESISoSMALL ",
    "bCAPITAL LETTER GHE WITH DESCENDERoSMALL bCAPITAL LETTER YERU WITH DIAERESISoSMALL ",
    "bCAPITAL LETTER GHE WITH STROKE AND HOOKoSMALL bCAPITAL LETTER HA WITH HOOKoSMALL ",
    "bCAPITAL LETTER HA WITH STROKEoSMALL bCAPITAL LETTER KOMI DEoSMALL bCAPITAL LETTER KOMI DJE",
    "oSMALL bCAPITAL LETTER KOMI ZJEoSMALL bCAPITAL LETTER KOMI DZJEoSMALL ",
    "bCAPITAL LETTER KOMI LJEoSMALL bCAPITAL LETTER KOMI NJEoSMALL bCAPITAL LETTER KOMI SJEoSMALL ",
    "bCAPITAL LETTER KOMI TJEoSMALL bCAPITAL LETTER REVERSED ZEoSMALL bCAPITAL LETTER EL WITH HOOK",
    "oSMALL bCAPITAL LETTER LHAoSMALL bCAPITAL LETTER RHAoSMALL bCAPITAL LETTER YAEoSMALL ",
    "bCAPITAL LETTER QAoSMALL bCAPITAL LETTER WEoSMALL bCAPITAL LETTER ALEUT KAoSMALL ",
    "bCAPITAL LETTER EL WITH MIDDLE HOOKoSMALL oCAPITAL LETTER EN oSMALL ",
    "bCAPITAL LETTER PE WITH DESCENDERoSMALL oCAPITAL LETTER SHHA oSMALL ",
    "bCAPITAL LETTER EN WITH LEFT HOOKoSMALL bCAPITAL LETTER DZZHEoSMALL bCAPITAL LETTER DCHE",
    "oSMALL bCAPITAL LETTER EL WITH DESCENDERoSMALL ",
    "531aARMENIAN CAPITAL LETTER AYBdBENdGIMdDAdECHdZAdEHdETdTOdZHEdINIdLIWNdXEHdCAdKENdHOdJAdGHAD",
    "dCHEHdMENdYIdNOWdSHAdVOdCHAdPEHdJHEHdRAdSEHdVEWdTIWNdREHdCOdYIWNdPIWRdKEHdOHdFEH",
    "559bMODIFIER LETTER LEFT HALF RINGbAPOSTROPHEbEMPHASIS MARKoEXCLAMATION bCOMMAbQUESTION MARK",
    "oABBREVIATION bSMALL LETTER TURNED AYBdAYBdBENdGIMdDAdECHdZAdEHdETdTOdZHEdINIdLIWNdXEHdCAdKEN",
    "dHOdJAdGHADdCHEHdMENdYIdNOWdSHAdVOdCHAdPEHdJHEHdRAdSEHdVEWdTIWNdREHdCOdYIWNdPIWRdKEHdOHdFEH",
    "cLIGATURE ECH YIWNcLETTER YI WITH STROKEbFULL STOPbHYPHEN",
    "58DaRIGHT-FACING ARMENIAN ETERNITY SIGNnLEFT-aARMENIAN DRAM SIGN",
    "591aHEBREW ACCENT ETNAHTAcSEGOLcSHALSHELETcZAQEF QATANdGADOLcTIPEHAcREVIAcZARQAcPASHTAcYETIV",
    "cTEVIRcGERESHcGERESH MUQDAMcGERSHAYIMcQARNEY PARAcTELISHA GEDOLAcPAZERcATNAH HAFUKHcMUNAH",
    "cMAHAPAKHcMERKHAcMERKHA KEFULAcDARGAcQADMAcTELISHA QETANAcYERAH BEN YOMOcOLEcILUYcDEHIcZINOR",
    "bMARK MASORA CIRCLEbPOINT SHEVAcHATAF SEGOLdPATAHdQAMATScHIRIQcTSEREcSEGOLcPATAHcQAMATScHOLAM",
    "cHOLAM HASER FOR VAVcQUBUTScDAGESH OR MAPIQcMETEGbPUNCTUATION MAQAFbPOINT RAFE",
    "bPUNCTUATION PASEQbPOINT SHIN DOTpSIN bPUNCTUATION SOF PASUQbMARK UPPER DOTpLOWER ",
    "bPUNCTUATION NUN HAFUKHAbPOINT QAMATS QATAN",
    "5D0bLETTER ALEFcBETcGIMELcDALETcHEcVAVcZAYINcHETcTETcYODcFINAL KAFcKAFcLAMEDcFINAL MEMcMEM",
    "cFINAL NUNcNUNcSAMEKHcAYINcFINAL PEcPEcFINAL TSADIcTSADIcQOFcRESHcSHINcTAV",
    "5EFbYOD TRIANGLEbLIGATURE YIDDISH DOUBLE VAVdVAV YODqDOUBLE bPUNCTUATION GERESHcGERSHAYIM",
    "600aARABIC NUMBER SIGNbSIGN SANAHbFOOTNOTE MARKERbSIGN SAFHAcSAMVATbNUMBER MARK ABOVE",
    "aARABIC-INDIC CUBE ROOTpFOURTH aARABIC RAYaARABIC-INDIC PER MILLE SIGNdTEN THOUSAND SIGN",
    "aAFGHANI SIGNaARABIC COMMAbDATE SEPARATORbPOETIC VERSE SIGNbSIGN MISRA",
    "cSALLALLAHOU ALAYHE WASSALLAMcALAYHE ASSALLAMcRAHMATULLAH ALAYHEcRADI ALLAHOU ANHUcTAKHALLUS",
    "bSMALL HIGH TAHdLIGATURE ALEF WITH LAM WITH YEHdZAINcFATHAcDAMMAcKASRAbSEMICOLONbLETTER MARK",
    "bEND OF TEXT MARKoTRIPLE DOT PUNCTUATION bQUESTION MARKbLETTER KASHMIRI YEHcHAMZA",
    "cALEF WITH MADDA ABOVErHAMZA pWAW cALEF WITH HAMZA BELOWcYEH WITH HAMZA ABOVEcALEFcBEH",
    "cTEH MARBUTAcTEHcTHEHcJEEMcHAHcKHAHcDALcTHALcREHcZAINcSEENcSHEENcSADcDADcTAHcZAHcAINcGHAIN",
    "cKEHEH WITH TWO DOTS ABOVEeTHREE DOTS BELOWcFARSI YEH WITH INVERTED VfTWO DOTS ABOVEsTHREE ",
    "bTATWEELbLETTER FEHcQAFcKAFcLAMcMEEMcNOONcHEHcWAWcALEF MAKSURAcYEHbFATHATANbDAMMATANbKASRATAN",
    "bFATHAbDAMMAbKASRAbSHADDAbSUKUNbMADDAH ABOVEoHAMZA cBELOWbSUBSCRIPT ALEFbINVERTED DAMMA",
    "bMARK NOON GHUNNAbZWARAKAYbVOWEL SIGN SMALL V ABOVEdINVERTED SMALL V ABOVEdDOT BELOW",
    "bREVERSED DAMMAbFATHA WITH TWO DOTSbWAVY HAMZA BELOWaARABIC-INDIC DIGIT ZEROdONEdTWOdTHREE",
    "dFOURdFIVEdSIXdSEVENdEIGHTdNINEaARABIC PERCENT SIGNbDECIMAL SEPARATORoTHOUSANDS ",
    "bFIVE POINTED STARbLETTER DOTLESS BEHdQAFcSUPERSCRIPT ALEFcALEF WASLAdWITH WAVY HAMZA ABOVE",
    "gBELOWcHIGH HAMZAdHAMZA ALEFeWAWcU WITH HAMZA ABOVEcHIGH HAMZA YEHcTTEHcTTEHEHcBEEH",
    "cTEH WITH RINGeTHREE DOTS ABOVE DOWNWARDScPEHcTEHEHcBEHEHcHAH WITH HAMZA ABOVE",
    "eTWO DOTS VERTICAL ABOVEcNYEHcDYEHcHAH WITH THREE DOTS ABOVEcTCHEHcTCHEHEHcDDALcDAL WITH RING",
    "eDOT BELOWfBELOW AND SMALL TAHcDAHALcDDAHALcDULcDAL WITH THREE DOTS ABOVE DOWNWARDS",
    "eFOUR DOTS ABOVEcRREHcREH WITH SMALL VeRINGeDOT BELOWeSMALL V BELOWeDOT BELOW AND DOT ABOVE",
    "eTWO DOTS ABOVEcJEHcREH WITH FOUR DOTS ABOVEcSEEN WITH DOT BELOW AND DOT ABOVE",
    "eTHREE DOTS BELOWgBELOW AND THREE DOTS ABOVEcSAD WITH TWO DOTS BELOWeTHREE DOTS ABOVEpTAH ",
    "pAIN cDOTLESS FEHcFEH WITH DOT MOVED BELOWfBELOWcVEHcFEH WITH THREE DOTS BELOWcPEHEH",
    "cQAF WITH DOT ABOVEeTHREE DOTS ABOVEcKEHEHcSWASH KAFcKAF WITH RINGeDOT ABOVEcNG",
    "cKAF WITH THREE DOTS BELOWcGAFcGAF WITH RINGcNGOEHcGAF WITH TWO DOTS BELOWcGUEH",
    "cGAF WITH THREE DOTS ABOVEcLAM WITH SMALL VeDOT ABOVEeTHREE DOTS ABOVEgBELOW",
    "cNOON WITH DOT BELOWdGHUNNAcRNOONcNOON WITH RINGeTHREE DOTS ABOVEcHEH DOACHASHMEE",
    "cTCHEH WITH DOT ABOVEpHEH WITH YEH dGOALdGOAL WITH HAMZA ABOVEcTEH MARBUTA GOALcWAW WITH RING",
    "cKIRGHIZ OEcOEcUcYUcKIRGHIZ YUcWAW WITH TWO DOTS ABOVEcVEcFARSI YEHcYEH WITH TAILeSMALL V",
    "cWAW WITH DOT ABOVEcEcYEH WITH THREE DOTS BELOWdBARREEdBARREE WITH HAMZA ABOVEbFULL STOP",
    "bLETTER AEbSMALL HIGH LIGATURE SAD WITH LAM WITH ALEF MAKSURArQAF dMEEM INITIAL FORMdLAM ALEF",
    "dJEEMdTHREE DOTSdSEENbEND OF AYAHbSTART OF RUB EL HIZBbSMALL HIGH ROUNDED ZERO",
    "dUPRIGHT RECTANGULAR ZEROdDOTLESS HEAD OF KHAHdMEEM ISOLATED FORMcLOW SEENcHIGH MADDAcWAWcYEH",
    "cHIGH YEHdNOONbPLACE OF SAJDAHbEMPTY CENTRE LOW STOPqHIGH ",
    "bROUNDED HIGH STOP WITH FILLED CENTREbSMALL LOW MEEMbLETTER DAL WITH INVERTED VpREH ",
    "aEXTENDED ARABIC-INDIC DIGIT ZEROeONEeTWOeTHREEeFOUReFIVEeSIXeSEVENeEIGHTeNINE",
    "aARABIC LETTER SHEEN WITH DOT BELOWpDAD pGHAIN bSIGN SINDHI AMPERSANDdPOSTPOSITION MEN",
    "bLETTER HEH WITH INVERTED VaSYRIAC END OF PARAGRAPHbSUPRALINEAR FULL STOPoSUBLINEAR ",
    "bSUPRALINEAR COLONoSUBLINEAR oHORIZONTAL bCOLON SKEWED LEFTdRIGHT",
    "bSUPRALINEAR COLON SKEWED LEFTbSUBLINEAR COLON SKEWED RIGHTbCONTRACTIONbHARKLEAN OBELUS",
    "cMETOBELUScASTERISCUS",
    "70FbABBREVIATION MARKbLETTER ALAPHcSUPERSCRIPT ALAPHcBETHcGAMALcGAMAL GARSHUNIcDALATH",
    "cDOTLESS DALATH RISHcHEcWAWcZAINcHETHcTETHcTETH GARSHUNIcYUDHcYUDH HEcKAPHcLAMADHcMIMcNUN",
    "cSEMKATHcFINAL SEMKATHcEcPEcREVERSED PEcSADHEcQAPHcRISHcSHINcTAWcPERSIAN BHETHdGHAMALdDHALATH",
    "bPTHAHA ABOVEcBELOWcDOTTEDbZQAPHA ABOVEcBELOWcDOTTEDbRBASA ABOVEcBELOW",
    "bDOTTED ZLAMA HORIZONTALdANGULARbHBASA ABOVEcBELOWbHBASA-ESASA DOTTEDbESASA ABOVEcBELOWbRWAHA",
    "bFEMININE DOTbQUSHSHAYAbRUKKAKHAbTWO VERTICAL DOTS ABOVEeBELOWbTHREE DOTS ABOVEdBELOW",
    "bOBLIQUE LINE ABOVEdBELOWbMUSICbBARREKH",
    "74DbLETTER SOGDIAN ZHAINdKHAPHdFEaARABIC LETTER BEH WITH THREE DOTS HORIZONTALLY BELOW",
    "eDOT BELOW AND THREE DOTS ABOVEeTHREE DOTS POINTING UPWARDS BELOWiBELOW AND TWO DOTS ABOVE",
    "eTWO DOTS BELOW AND DOT ABOVEeINVERTED SMALL V BELOWeSMALL VcHAH WITH TWO DOTS ABOVE",
    "eTHREE DOTS POINTING UPWARDS BELOWcDAL WITH TWO DOTS VERTICALLY BELOW AND SMALL TAH",
    "eINVERTED SMALL V BELOWcREH WITH STROKEcSEEN WITH FOUR DOTS ABOVEpAIN WITH TWO ",
    "eTHREE DOTS POINTING DOWNWARDS ABOVEeTWO DOTS VERTICALLY ABOVEcFEH WITH TWO DOTS BELOW",
    "eTHREE DOTS POINTING UPWARDS BELOWcKEHEH WITH DOT ABOVEeTHREE DOTS ABOVE",
    "gPOINTING UPWARDS BELOWcMEEM WITH DOT ABOVEfBELOWcNOON WITH TWO DOTS BELOWeSMALL TAHfV",
    "cLAM WITH BARcREH WITH TWO DOTS VERTICALLY ABOVEeHAMZA ABOVE",
    "cSEEN WITH TWO DOTS VERTICALLY ABOVEcHAH WITH SMALL ARABIC LETTER TAH BELOWiAND TWO DOTS",
    "pSEEN pREH cHAH WITH SMALL ARABIC LETTER TAH ABOVE",
    "cALEF WITH EXTENDED ARABIC-INDIC DIGIT TWO ABOVEvTHREE ",
    "cFARSI YEH WITH EXTENDED ARABIC-INDIC DIGIT TWO ABOVEwTHREE jFOUR BELOW",
    "cWAW WITH EXTENDED ARABIC-INDIC DIGIT TWO ABOVEvTHREE ",
    "cYEH BARREE WITH EXTENDED ARABIC-INDIC DIGIT TWO ABOVEwTHREE ",
    "cHAH WITH EXTENDED ARABIC-INDIC DIGIT FOUR BELOW",
    "cSEEN WITH EXTENDED ARABIC-INDIC DIGIT FOUR ABOVEeINVERTED VcKAF WITH TWO DOTS ABOVE",
    "aTHAANA LETTER HAAcSHAVIYANIcNOONUcRAAcBAAcLHAVIYANIcKAAFUcALIFUcVAAVUcMEEMUcFAAFUcDHAALU",
    "cTHAAcLAAMUcGAAFUcGNAVIYANIcSEENUcDAVIYANIcZAVIYANIcTAVIYANIcYAAcPAVIYANIcJAVIYANIcCHAVIYANI",
    "cTTAAcHHAAcKHAAcTHAALUcZAAcSHEENUcSAADHUcDAADHUcTOcZOcAINUcGHAINUcQAAFUcWAAVUbABAFILI",
    "bAABAAFILIbIBIFILIbEEBEEFILIbUBUFILIbOOBOOFILIbEBEFILIbEYBEYFILIbOBOFILIbOABOAFILIbSUKUN",
    "bLETTER NAA",
    "7C0aNKO DIGIT ZEROcONEcTWOcTHREEcFOURcFIVEcSIXcSEVENcEIGHTcNINEbLETTER AcEEcIcEcUcOOcO",
    "cDAGBASINNAcNcBAcPAcTAcJAcCHAcDAcRAcRRAcSAcGBAcFAcKAcLAcNA WOLOSOcMAcNYAcNAcHAcWAcYA",
    "cNYA WOLOSOcJONA JAdCHAdRAbCOMBINING SHORT HIGH TONEqLOW qRISING pLONG DESCENDING qHIGH qLOW ",
    "qRISING cNASALIZATION MARKcDOUBLE DOT ABOVEbHIGH TONE APOSTROPHEoLOW bSYMBOL OO DENNEN",
    "cGBAKURUNENbCOMMAbEXCLAMATION MARKbLAJANYALAN",
    "7FDbDANTAYALANbDOROME SIGNoTAMAN aSAMARITAN LETTER ALAFcBITcGAMANcDALATcIYcBAAcZENcITcTITcYUT",
    "cKAAFcLABATcMIMcNUNcSINGAATcINcFIcTSAADIYcQUFcRISHcSHANcTAAFbMARK INcIN-ALAFcOCCLUSIONcDAGESH",
    "bMODIFIER LETTER EPENTHETIC YUTbMARK EPENTHETIC YUTbVOWEL SIGN LONG EdEdOVERLONG AAqLONG dAA",
    "dOVERLONG AqLONG dAbMODIFIER LETTER SHORT AoVOWEL SIGN dLONG UdUbMODIFIER LETTER I",
    "bVOWEL SIGN LONG IdIdOdSUKUNbMARK NEQUDAA",
    "830oPUNCTUATION cAFSAAQcANGEDcBAUcATMAAUcSHIYYAALAAbABBREVIATION MARK",
    "bPUNCTUATION MELODIC QITSAcZIQAAcQITSAcZAEFcTURUcARKAANUcSOF MASHFAATcANNAAU",
    "840aMANDAIC LETTER HALQAcABcAGcADcAHcUSHENNAcAZcITcATTcAKSAcAKcALcAMcANcAScINcAPcASZcAQcAR",
    "cASHcATcDUSHENNAcKADcAINbAFFRICATION MARKoVOCALIZATION oGEMINATION ", "85EbPUNCTUATION",
    "860aSYRIAC LETTER MALAYALAM NGAdJAdNYAdTTAdNNAdNNNAdBHAdRAdLLAdLLLAdSSA",
    "870aARABIC LETTER ALEF WITH ATTACHED FATHAfTOP RIGHT FATHAeRIGHT MIDDLE STROKErLEFT ",
    "eATTACHED KASRAfBOTTOM RIGHT KASRAfROUND DOT ABOVEfRIGHT ROUND DOTsLEFT fROUND DOT BELOW",
    "eDOT ABOVEeATTACHED TOP RIGHT FATHA AND DOT ABOVEeRIGHT MIDDLE STROKE AND DOT ABOVE",
    "eATTACHED BOTTOM RIGHT KASRA AND DOT ABOVEfTOP RIGHT FATHA AND LEFT RING",
    "eRIGHT MIDDLE STROKE AND LEFT RINGeATTACHED BOTTOM RIGHT KASRA AND LEFT RINGfRIGHT HAMZA",
    "sLEFT bTATWEEL WITH OVERSTRUCK HAMZAeWAWdTWO DOTS BELOWbLETTER THIN YEHbBASELINE ROUND DOT",
    "oRAISED bLETTER NOON WITH INVERTED SMALL VcHAH WITH INVERTED SMALL V BELOWcTAH WITH DOT BELOW",
    "eTHREE DOTS BELOWcKEHEH WITH TWO DOTS VERTICALLY BELOWbVERTICAL TAIL",
    "890bPOUND MARK ABOVEoPIASTRE ",
    "898bSMALL HIGH WORD AL-JUZcLOW WORD ISHMAAMeIMAALAeTASHEELbMADDA WAAJIB",
    "bSUPERSCRIPT ALEF MOKHASSASbDOUBLED MADDAbHALF MADDA OVER MADDAbLETTER BEH WITH SMALL V BELOW",
    "eHAMZA ABOVEcJEEM WITH TWO DOTS ABOVEpTAH cFEH WITH DOT BELOW AND THREE DOTS ABOVE",
    "cQAF WITH DOT BELOWcLAM WITH DOUBLE BARcMEEM WITH THREE DOTS ABOVE",
    "cYEH WITH TWO DOTS BELOW AND HAMZA ABOVEvDOT cREH WITH LOOPcWAW WITH DOT WITHINcROHINGYA YEH",
    "cLOW ALEFcDAL WITH THREE DOTS BELOWpSAD cGAF WITH INVERTED STROKEcSTRAIGHT WAW",
    "cZAIN WITH INVERTED V ABOVEcAIN WITH THREE DOTS BELOWcKAF WITH DOT BELOW",
    "cQAF WITH DOT BELOW AND NO DOTS ABOVEcBEH WITH SMALL MEEM ABOVEpPEH pTEH WITH SMALL TEH ",
    "pREH WITH SMALL NOON cYEH WITH TWO DOTS BELOW AND SMALL NOON ABOVEcAFRICAN FEHdQAFdNOON",
    "cPEH WITH SMALL VpTEH pTTEH pTCHEH pKEHEH cGHAIN WITH THREE DOTS ABOVE",
    "cAFRICAN QAF WITH THREE DOTS ABOVEcJEEM WITH THREE DOTS ABOVEgBELOW",
    "cLAM WITH SMALL ARABIC LETTER TAH ABOVEcGRAFbSMALL FARSI YEHcHIGH FARSI YEH",
    "dYEH BARREE WITH TWO DOTS BELOWdWORD SAHdZAHbLARGE ROUND DOT ABOVEeBELOWbSUKUN BELOW",
    "bLARGE CIRCLE BELOWcROUND DOT INSIDE CIRCLE BELOWbSMALL LOW WAWcHIGH WORD AR-RUBdSADdAINdQAF",
    "dNOON WITH KASRApLOW cHIGH WORD ATH-THALATHAeAS-SAJDAeAN-NISFeSAKTAeQIFeWAQFAdFOOTNOTE MARKER",
    "dSIGN SAFHAbDISPUTED END OF AYAHbTURNED DAMMA BELOWbCURLY FATHAcDAMMAcKASRAcFATHATANcDAMMATAN",
    "cKASRATANbTONE ONE DOT ABOVEpTWO DOTS cLOOP ABOVEcONE DOT BELOWpTWO DOTS cLOOP BELOW",
    "bOPEN FATHATANcDAMMATANcKASRATANbSMALL HIGH WAWbFATHA WITH RINGdDOT ABOVE",
    "bKASRA WITH DOT BELOWbLEFT ARROWHEAD ABOVEoRIGHT bLEFT ARROWHEAD BELOWoRIGHT ",
    "bDOUBLE RIGHT ARROWHEAD ABOVEeABOVE WITH DOTbRIGHT ARROWHEAD ABOVE WITH DOTbDAMMA WITH DOT",
    "bMARK SIDEWAYS NOON GHUNNAaDEVANAGARI SIGN INVERTED CANDRABINDUcCANDRABINDUcANUSVARAcVISARGA",
    "bLETTER SHORT AcAcAAcIcIIcUcUUcVOCALIC RdLcCANDRA EpSHORT cEcAIcCANDRA OpSHORT cOcAUcKAcKHA",
    "cGAcGHAcNGAcCAcCHAcJAcJHAcNYAcTTAcTTHAcDDAcDDHAcNNAcTAcTHAcDAcDHAcNAcNNNAcPAcPHAcBAcBHAcMAcYA",
    "cRAcRRAcLAcLLAcLLLAcVAcSHAcSSAcSAcHAbVOWEL SIGN OEdOOEbSIGN NUKTAcAVAGRAHAbVOWEL SIGN AAdIdII",
    "dUdUUdVOCALIC ReRRdCANDRA EqSHORT dEdAIdCANDRA OqSHORT dOdAUbSIGN VIRAMA",
    "bVOWEL SIGN PRISHTHAMATRA EdAWbOMbSTRESS SIGN UDATTAdANUDATTAbGRAVE ACCENToACUTE ",
    "bVOWEL SIGN CANDRA LONG EdUEdUUEbLETTER QAcKHHAcGHHAcZAcDDDHAcRHAcFAcYYAcVOCALIC RRdLL",
    "bVOWEL SIGN VOCALIC LeLLbDANDAbDOUBLE DANDAbDIGIT ZEROcONEcTWOcTHREEcFOURcFIVEcSIXcSEVEN",
    "cEIGHTcNINEbABBREVIATION SIGNbSIGN HIGH SPACING DOTbLETTER CANDRA AcOEcOOEcAWcUEcUUE",
    "cMARWARI DDAcZHAcHEAVY YAcGGAcJJAcGLOTTAL STOPcDDDAcBBAaBENGALI ANJIbSIGN CANDRABINDU",
    "cANUSVARAcVISARGA", "985bLETTER AcAAcIcIIcUcUUcVOCALIC RdL", "98FcEcAI",
    "993cOcAUcKAcKHAcGAcGHAcNGAcCAcCHAcJAcJHAcNYAcTTAcTTHAcDDAcDDHAcNNAcTAcTHAcDAcDHAcNA",
    "9AAcPAcPHAcBAcBHAcMAcYAcRA", "9B2cLA", "9B6cSHAcSSAcSAcHA",
    "9BCbSIGN NUKTAcAVAGRAHAbVOWEL SIGN AAdIdIIdUdUUdVOCALIC ReRR", "9C7dEdAI",
    "9CBdOdAUbSIGN VIRAMAbLETTER KHANDA TA", "9D7bAU LENGTH MARK", "9DCbLETTER RRAcRHA",
    "9DFcYYAcVOCALIC RRdLLbVOWEL SIGN VOCALIC LeLL",
    "9E6bDIGIT ZEROcONEcTWOcTHREEcFOURcFIVEcSIXcSEVENcEIGHTcNINEbLETTER RA WITH MIDDLE DIAGONAL",
    "rLOWER bRUPEE MARKcSIGNbCURRENCY NUMERATOR ONEdTWOdTHREEdFOURdONE LESS THAN THE DENOMINATOR",
    "cDENOMINATOR SIXTEENbISSHARbGANDA MARKbLETTER VEDIC ANUSVARAbABBREVIATION SIGNbSANDHI MARK",
    "A01aGURMUKHI SIGN ADAK BINDIcBINDIcVISARGA", "A05bLETTER AcAAcIcIIcUcUU", "A0FcEEcAI",
    "A13cOOcAUcKAcKHAcGAcGHAcNGAcCAcCHAcJAcJHAcNYAcTTAcTTHAcDDAcDDHAcNNAcTAcTHAcDAcDHAcNA",
    "A2AcPAcPHAcBAcBHAcMAcYAcRA", "A32cLAcLLA", "A35cVAcSHA", "A38cSAcHA", "A3CbSIGN NUKTA",
    "A3EbVOWEL SIGN AAdIdIIdUdUU", "A47dEEdAI", "A4BdOOdAUbSIGN VIRAMA", "A51cUDAAT",
    "A59bLETTER KHHAcGHHAcZAcRRA", "A5EcFA",
    "A66bDIGIT ZEROcONEcTWOcTHREEcFOURcFIVEcSIXcSEVENcEIGHTcNINEbTIPPIbADDAKbIRIbURAbEK ONKAR",
    "bSIGN YAKASHbABBREVIATION SIGN", "A81aGUJARATI SIGN CANDRABINDUcANUSVARAcVISARGA",
    "A85bLETTER AcAAcIcIIcUcUUcVOCALIC RdLbVOWEL CANDRA E", "A8FbLETTER EcAIbVOWEL CANDRA O",
    "A93bLETTER OcAUcKAcKHAcGAcGHAcNGAcCAcCHAcJAcJHAcNYAcTTAcTTHAcDDAcDDHAcNNAcTAcTHAcDAcDHAcNA",
    "AAAcPAcPHAcBAcBHAcMAcYAcRA", "AB2cLAcLLA", "AB5cVAcSHAcSSAcSAcHA",
    "ABCbSIGN NUKTAcAVAGRAHAbVOWEL SIGN AAdIdIIdUdUUdVOCALIC ReRRdCANDRA E", "AC7dEdAIdCANDRA O",
    "ACBdOdAUbSIGN VIRAMA", "AD0bOM", "AE0bLETTER VOCALIC RRdLLbVOWEL SIGN VOCALIC LeLL",
    "AE6bDIGIT ZEROcONEcTWOcTHREEcFOURcFIVEcSIXcSEVENcEIGHTcNINEbABBREVIATION SIGNoRUPEE ",
    "AF9bLETTER ZHAbSIGN SUKUNcSHADDAcMADDAHcTHREE-DOT NUKTA ABOVEcCIRCLE NUKTA ABOVE",
    "cTWO-CIRCLE NUKTA ABOVE", "B01aORIYA SIGN CANDRABINDUcANUSVARAcVISARGA",
    "B05bLETTER AcAAcIcIIcUcUUcVOCALIC RdL", "B0FcEcAI",
    "B13cOcAUcKAcKHAcGAcGHAcNGAcCAcCHAcJAcJHAcNYAcTTAcTTHAcDDAcDDHAcNNAcTAcTHAcDAcDHAcNA",
    "B2AcPAcPHAcBAcBHAcMAcYAcRA", "B32cLAcLLA", "B35cVAcSHAcSSAcSAcHA",
    "B3CbSIGN NUKTAcAVAGRAHAbVOWEL SIGN AAdIdIIdUdUUdVOCALIC ReRR", "B47dEdAI",
    "B4BdOdAUbSIGN VIRAMA", "B55cOVERLINEbAI LENGTH MARKoAU ", "B5CbLETTER RRAcRHA",
    "B5FcYYAcVOCALIC RRdLLbVOWEL SIGN VOCALIC LeLL",
    "B66bDIGIT ZEROcONEcTWOcTHREEcFOURcFIVEcSIXcSEVENcEIGHTcNINEbISSHARbLETTER WA",
    "bFRACTION ONE QUARTERdHALFcTHREE QUARTERScONE SIXTEENTHdEIGHTHcTHREE SIXTEENTHS",
    "B82aTAMIL SIGN ANUSVARAcVISARGA", "B85bLETTER AcAAcIcIIcUcUU", "B8EcEcEEcAI", "B92cOcOOcAUcKA",
    "B99cNGAcCA", "B9CcJA", "B9EcNYAcTTA", "BA3cNNAcTA", "BA8cNAcNNNAcPA",
    "BAEcMAcYAcRAcRRAcLAcLLAcLLLAcVAcSHAcSSAcSAcHA", "BBEbVOWEL SIGN AAdIdIIdUdUU", "BC6dEdEEdAI",
    "BCAdOdOOdAUbSIGN VIRAMA", "BD0bOM", "BD7bAU LENGTH MARK",
    "BE6bDIGIT ZEROcONEcTWOcTHREEcFOURcFIVEcSIXcSEVENcEIGHTcNINEbNUMBER TENcONE HUNDREDdTHOUSAND",
    "bDAY SIGNoMONTH oYEAR oDEBIT oCREDIT bAS ABOVE SIGNbRUPEE SIGNoNUMBER ",
    "C00aTELUGU SIGN COMBINING CANDRABINDU ABOVEcCANDRABINDUcANUSVARAcVISARGA",
    "cCOMBINING ANUSVARA ABOVEbLETTER AcAAcIcIIcUcUUcVOCALIC RdL", "C0EcEcEEcAI",
    "C12cOcOOcAUcKAcKHAcGAcGHAcNGAcCAcCHAcJAcJHAcNYAcTTAcTTHAcDDAcDDHAcNNAcTAcTHAcDAcDHAcNA",
    "C2AcPAcPHAcBAcBHAcMAcYAcRAcRRAcLAcLLAcLLLAcVAcSHAcSSAcSAcHA",
    "C3CbSIGN NUKTAcAVAGRAHAbVOWEL SIGN AAdIdIIdUdUUdVOCALIC ReRR", "C46dEdEEdAI",
    "C4AdOdOOdAUbSIGN VIRAMA", "C55bLENGTH MARKbAI LENGTH MARK", "C58bLETTER TSAcDZAcRRRA",
    "C5DcNAKAARA POLLU", "C60cVOCALIC RRdLLbVOWEL SIGN VOCALIC LeLL",
    "C66bDIGIT ZEROcONEcTWOcTHREEcFOURcFIVEcSIXcSEVENcEIGHTcNINE",
    "C77bSIGN SIDDHAMbFRACTION DIGIT ZERO FOR ODD POWERS OF FOURqONE qTWO qTHREE qONE FOR EVEN ",
    "qTWO qTHREE bSIGN TUUMUaKANNADA SIGN SPACING CANDRABINDUcCANDRABINDUcANUSVARAcVISARGAcSIDDHAM",
    "bLETTER AcAAcIcIIcUcUUcVOCALIC RdL", "C8EcEcEEcAI",
    "C92cOcOOcAUcKAcKHAcGAcGHAcNGAcCAcCHAcJAcJHAcNYAcTTAcTTHAcDDAcDDHAcNNAcTAcTHAcDAcDHAcNA",
    "CAAcPAcPHAcBAcBHAcMAcYAcRAcRRAcLAcLLA", "CB5cVAcSHAcSSAcSAcHA",
    "CBCbSIGN NUKTAcAVAGRAHAbVOWEL SIGN AAdIdIIdUdUUdVOCALIC ReRR", "CC6dEdEEdAI",
    "CCAdOdOOdAUbSIGN VIRAMA", "CD5bLENGTH MARKbAI LENGTH MARK", "CDDbLETTER NAKAARA POLLUcFA",
    "CE0cVOCALIC RRdLLbVOWEL SIGN VOCALIC LeLL",
    "CE6bDIGIT ZEROcONEcTWOcTHREEcFOURcFIVEcSIXcSEVENcEIGHTcNINE",
    "CF1bSIGN JIHVAMULIYAcUPADHMANIYA",
    "D00aMALAYALAM SIGN COMBINING ANUSVARA ABOVEcCANDRABINDUcANUSVARAcVISARGA",
    "bLETTER VEDIC ANUSVARAcAcAAcIcIIcUcUUcVOCALIC RdL", "D0EcEcEEcAI",
    "D12cOcOOcAUcKAcKHAcGAcGHAcNGAcCAcCHAcJAcJHAcNYAcTTAcTTHAcDDAcDDHAcNNAcTAcTHAcDAcDHAcNAcNNNA",
    "cPAcPHAcBAcBHAcMAcYAcRAcRRAcLAcLLAcLLLAcVAcSHAcSSAcSAcHAcTTTAbSIGN VERTICAL BAR VIRAMA",
    "cCIRCULAR VIRAMAcAVAGRAHAbVOWEL SIGN AAdIdIIdUdUUdVOCALIC ReRR", "D46dEdEEdAI",
    "D4AdOdOOdAUbSIGN VIRAMAbLETTER DOT REPHbSIGN PARA",
    "D54bLETTER CHILLU MdYdLLLbAU LENGTH MARKbFRACTION ONE ONE-HUNDRED-AND-SIXTIETHdFORTIETH",
    "cTHREE EIGHTIETHScONE TWENTIETHdTENTHcTHREE TWENTIETHScONE FIFTHbLETTER ARCHAIC IIcVOCALIC RR",
    "dLLbVOWEL SIGN VOCALIC LeLL",
    "D66bDIGIT ZEROcONEcTWOcTHREEcFOURcFIVEcSIXcSEVENcEIGHTcNINEbNUMBER TENcONE HUNDREDdTHOUSAND",
    "bFRACTION ONE QUARTERdHALFcTHREE QUARTERScONE SIXTEENTHdEIGHTHcTHREE SIXTEENTHSbDATE MARK",
    "bLETTER CHILLU NNdNdRRdLdLLdK", "D81aSINHALA SIGN CANDRABINDUcANUSVARAYAcVISARGAYA",
    "D85bLETTER AYANNAcAAYANNAcAEYANNAcAEEYANNAcIYANNAcIIYANNAcUYANNAcUUYANNAcIRUYANNAcIRUUYANNA",
    "cILUYANNAcILUUYANNAcEYANNAcEEYANNAcAIYANNAcOYANNAcOOYANNAcAUYANNA",
    "D9AcALPAPRAANA KAYANNApMAHAAPRAANA cALPAPRAANA GAYANNApMAHAAPRAANA cKANTAJA NAASIKYAYA",
    "cSANYAKA GAYANNAcALPAPRAANA CAYANNApMAHAAPRAANA cALPAPRAANA JAYANNApMAHAAPRAANA ",
    "cTAALUJA NAASIKYAYAdSANYOOGA NAAKSIKYAYAcSANYAKA JAYANNAcALPAPRAANA TTAYANNApMAHAAPRAANA ",
    "cALPAPRAANA DDAYANNApMAHAAPRAANA cMUURDHAJA NAYANNAcSANYAKA DDAYANNAcALPAPRAANA TAYANNA",
    "pMAHAAPRAANA cALPAPRAANA DAYANNApMAHAAPRAANA cDANTAJA NAYANNA",
    "DB3cSANYAKA DAYANNAcALPAPRAANA PAYANNApMAHAAPRAANA cALPAPRAANA BAYANNApMAHAAPRAANA cMAYANNA",
    "cAMBA BAYANNAcYAYANNAcRAYANNA", "DBDcDANTAJA LAYANNA",
    "DC0cVAYANNAcTAALUJA SAYANNApMUURDHAJA pDANTAJA cHAYANNAcMUURDHAJA LAYANNAcFAYANNA",
    "DCAbSIGN AL-LAKUNA",
    "DCFbVOWEL SIGN AELA-PILLAdKETTI AEDA-PILLAqDIGA qKETTI IS-qDIGA qKETTI PAA-", "DD6qDIGA ",
    "DD8dGAETTA-PILLAdKOMBUVAdDIGA KOMBUVAdKOMBU DEKAdKOMBUVA HAA AELA-PILLAfDIGA AELA-PILLA",
    "fGAYANUKITTAdGAYANUKITTA", "DE6bLITH DIGIT ZEROdONEdTWOdTHREEdFOURdFIVEdSIXdSEVENdEIGHTdNINE",
    "DF2bVOWEL SIGN DIGA GAETTA-PILLAeGAYANUKITTAbPUNCTUATION KUNDDALIYA",
    "E01aTHAI CHARACTER KO KAIcKHO KHAIdKHUATdKHWAIdKHONdRAKHANGcNGO NGUcCHO CHANdCHINGdCHANG",
    "cSO SOcCHO CHOEcYO YINGcDO CHADAcTO PATAKcTHO THANdNANGMONTHOdPHUTHAOcNO NENcDO DEKcTO TAO",
    "cTHO THUNGdTHAHANdTHONGcNO NUcBO BAIMAIcPO PLAcPHO PHUNGcFO FAcPHO PHANcFO FANcPHO SAMPHAO",
    "cMO MAcYO YAKcRO RUAcRUcLO LINGcLUcWO WAENcSO SALAdRUSIdSUAcHO HIPcLO CHULAcO ANGcHO NOKHUK",
    "cPAIYANNOIcSARA AcMAI HAN-AKATcSARA AAdAMdIdIIdUEdUEEdUdUUcPHINTHU",
    "E3FbCURRENCY SYMBOL BAHTbCHARACTER SARA EdAEdOdAI MAIMUANeMAIMALAIcLAKKHANGYAOcMAIYAMOK",
    "cMAITAIKHUcMAI EKdTHOdTRIdCHATTAWAcTHANTHAKHATcNIKHAHITcYAMAKKANcFONGMANbDIGIT ZEROcONEcTWO",
    "cTHREEcFOURcFIVEcSIXcSEVENcEIGHTcNINEbCHARACTER ANGKHANKHUcKHOMUT",
    "E81aLAO LETTER KOcKHO SUNG", "E84dTAM", "E86cPALI GHAcNGOcCOcPALI CHAcSO TAM",
    "E8CcPALI JHAcNYOcPALI NYAdTTAdTTHAdDDAdDDHAdNNAcDOcTOcTHO SUNGdTAMcPALI DHAcNOcBOcPOcPHO SUNG",
    "cFO TAMpPHO cFO SUNGcPALI BHAcMOcYOcLO LING", "EA5dLOOT",
    "EA7cWOcSANSKRIT SHAdSSAcSO SUNGpHO cPALI LLAcOcHO TAMbELLIPSISbVOWEL SIGN AdMAI KANdAAdAMdI",
    "dIIdYdYYdUdUUbSIGN PALI VIRAMAbVOWEL SIGN MAI KONbSEMIVOWEL SIGN LOdNYO",
    "EC0bVOWEL SIGN EdEIdOdAYdAI", "EC6bKO LA",
    "EC8bTONE MAI EKdTHOdTIdCATAWAbCANCELLATION MARKbNIGGAHITA",
    "ED0bDIGIT ZEROcONEcTWOcTHREEcFOURcFIVEcSIXcSEVENcEIGHTcNINE",
    "EDCbHO NOcMObLETTER KHMU GOdNYO",
    "F00aTIBETAN SYLLABLE OMbMARK GTER YIG MGO TRUNCATED Af-UM RNAM BCAD MAuGTER TSHEG ",
    "cINITIAL YIG MGO MDUN MApCLOSING YIG MGO SGAB cCARET YIG MGO PHUR SHAD MA",
    "cYIG MGO TSHEG SHAD MAcSBRUL SHADcBSKUR YIG MGOcBKA- SHOG YIG MGOcINTERSYLLABIC TSHEG",
    "cDELIMITER TSHEG BSTARcSHADcNYIS SHADpTSHEG cNYIS TSHEG SHADcRIN CHEN SPUNGS SHAD",
    "cRGYA GRAM SHADcCARET -DZUD RTAGS ME LONG CANcGTER TSHEGbLOGOTYPE SIGN CHAD RTAGSqLHAG ",
    "bASTROLOGICAL SIGN SGRA GCAN -CHAR RTAGSd-KHYUD PAdSDONG TSHUGSbSIGN RDEL DKAR GCIGeGNYIS",
    "eGSUMdNAG GCIGeGNYISdDKAR RDEL NAGbDIGIT ZEROcONEcTWOcTHREEcFOURcFIVEcSIXcSEVENcEIGHTcNINE",
    "cHALF ONEdTWOdTHREEdFOURdFIVEdSIXdSEVENdEIGHTdNINEdZERObMARK BSDUS RTAGScNGAS BZUNG NYI ZLA",
    "cCARET -DZUD RTAGS BZHI MIG CANcNGAS BZUNG SGOR RTAGScCHE MGOcTSA -PHRUcGUG RTAGS GYONeGYAS",
    "cANG KHANG GYONeGYASbSIGN YAR TSHESpMAR bLETTER KAcKHAcGAcGHAcNGAcCAcCHAcJA",
    "F49cNYAcTTAcTTHAcDDAcDDHAcNNAcTAcTHAcDAcDHAcNAcPAcPHAcBAcBHAcMAcTSAcTSHAcDZAcDZHAcWAcZHAcZA",
    "c-AcYAcRAcLAcSHAcSSAcSAcHAcAcKSSAcFIXED-FORM RAcKKAcRRA",
    "F71bVOWEL SIGN AAdIdIIdUdUUdVOCALIC ReRReLeLLdEdEEdOdOObSIGN RJES SU NGA ROcRNAM BCAD",
    "bVOWEL SIGN REVERSED IeIIbSIGN NYI ZLA NAA DAcSNA LDANbMARK HALANTAcPALUTAbSIGN LCI RTAGS",
    "pYANG cLCE TSA CANcMCHU CANcGRU CAN RGYINGSqMED cINVERTED MCHU CANbSUBJOINED SIGN LCE TSA CAN",
    "dMCHU CANdINVERTED MCHU CANcLETTER KAdKHAdGAdGHAdNGAdCAdCHAdJA",
    "F99dNYAdTTAdTTHAdDDAdDDHAdNNAdTAdTHAdDAdDHAdNAdPAdPHAdBAdBHAdMAdTSAdTSHAdDZAdDZHAdWAdZHAdZA",
    "d-AdYAdRAdLAdSHAdSSAdSAdHAdAdKSSAdFIXED-FORM WAfYAfRA",
    "FBEbKU RU KHAdKHA BZHI MIG CANbCANTILLATION SIGN HEAVY BEATqLIGHT dCANG TE-UdSBUB -CHAL",
    "bSYMBOL DRIL BUcRDO RJEcPADMA GDANcRDO RJE RGYA GRAMcPHUR PAcNOR BUdBU NYIS -KHYILrGSUM ",
    "rBZHI ",
    "FCEbSIGN RDEL NAG RDEL DKAReGSUMbMARK BSKA- SHOG GI MGO RGYANcMNYAM YIG GI MGO RGYAN",
    "cNYIS TSHEGcINITIAL BRDA RNYING YIG MGO MDUN MApCLOSING BRDA RNYING YIG MGO SGAB ",
    "aRIGHT-FACING SVASTI SIGNnLEFT-aRIGHT-FACING SVASTI SIGN WITH DOTSnLEFT-",
    "aTIBETAN MARK LEADING MCHAN RTAGSpTRAILING ",
    "1000aMYANMAR LETTER KAcKHAcGAcGHAcNGAcCAcCHAcJAcJHAcNYAcNNYAcTTAcTTHAcDDAcDDHAcNNAcTAcTHAcDA",
    "cDHAcNAcPAcPHAcBAcBHAcMAcYAcRAcLAcWAcSAcHAcLLAcAcSHAN AcIcIIcUcUUcEcMON EcOcAU",
    "bVOWEL SIGN TALL AAdAAdIdIIdUdUUdEdAIdMON IIeOdE ABOVEbSIGN ANUSVARAcDOT BELOWcVISARGAcVIRAMA",
    "cASATbCONSONANT SIGN MEDIAL YAeRAeWAeHAbLETTER GREAT SAbDIGIT ZEROcONEcTWOcTHREEcFOURcFIVE",
    "cSIXcSEVENcEIGHTcNINEbSIGN LITTLE SECTIONcSECTIONbSYMBOL LOCATIVEcCOMPLETEDcAFOREMENTIONED",
    "cGENITIVEbLETTER SHAcSSAcVOCALIC RdRRdLdLLbVOWEL SIGN VOCALIC ReRReLeLLbLETTER MON NGAdJHA",
    "dBBAdBBEbCONSONANT SIGN MON MEDIAL NAfMAfLAbLETTER SGAW KAREN SHAbVOWEL SIGN SGAW KAREN EU",
    "bTONE MARK SGAW KAREN HATHIfKE PHObLETTER WESTERN PWO KAREN THAfPWA",
    "bVOWEL SIGN WESTERN PWO KAREN EUgUEbSIGN WESTERN PWO KAREN TONE-1g2g3g4g5",
    "bLETTER EASTERN PWO KAREN NNAfYWAfGHWAbVOWEL SIGN GEBA KAREN IdKAYAH OEeUeEEbLETTER SHAN KA",
    "dKHAdGAdCAdZAdNYAdDAdNAdPHAdFAdBAdTHAdHAbCONSONANT SIGN SHAN MEDIAL WAbVOWEL SIGN SHAN AAeE",
    "eE ABOVEeFINAL YbSIGN SHAN TONE-2e3e5e6dCOUNCIL TONE-2f3eEMPHATIC TONE",
    "bLETTER RUMAI PALAUNG FAbSIGN RUMAI PALAUNG TONE-5bSHAN DIGIT ZEROdONEdTWOdTHREEdFOURdFIVE",
    "dSIXdSEVENdEIGHTdNINEbSIGN KHAMTI TONE-1e3bVOWEL SIGN AITON AeAIbSYMBOL SHAN ONEdEXCLAMATION",
    "aGEORGIAN CAPITAL LETTER ANdBANdGANdDONdENdVINdZENdTANdINdKANdLASdMANdNARdONdPARdZHARdRAEdSAN",
    "dTARdUNdPHARdKHARdGHANdQARdSHINdCHINdCANdJILdCILdCHARdXANdJHANdHAEdHEdHIEdWEdHARdHOE",
    "10C7dYN", "10CDdAEN",
    "10D0bLETTER ANcBANcGANcDONcENcVINcZENcTANcINcKANcLAScMANcNARcONcPARcZHARcRAEcSANcTARcUNcPHAR",
    "cKHARcGHANcQARcSHINcCHINcCANcJILcCILcCHARcXANcJHANcHAEcHEcHIEcWEcHARcHOEcFIcYNcELIFI",
    "cTURNED GANcAINbPARAGRAPH SEPARATORaMODIFIER LETTER GEORGIAN NARaGEORGIAN LETTER AEN",
    "cHARD SIGNpLABIAL aHANGUL CHOSEONG KIYEOKcSSANGKIYEOKcNIEUNcTIKEUTcSSANGTIKEUTcRIEULcMIEUM",
    "cPIEUPcSSANGPIEUPcSIOScSSANGSIOScIEUNGcCIEUCcSSANGCIEUCcCHIEUCHcKHIEUKHcTHIEUTHcPHIEUPHcHIEUH",
    "cNIEUN-KIYEOKcSSANGNIEUNcNIEUN-TIKEUTdPIEUPcTIKEUT-KIYEOKcRIEUL-NIEUNcSSANGRIEULcRIEUL-HIEUH",
    "cKAPYEOUNRIEULcMIEUM-PIEUPcKAPYEOUNMIEUMcPIEUP-KIYEOKdNIEUNdTIKEUTdSIOSdSIOS-KIYEOKeTIKEUT",
    "ePIEUPdSSANGSIOSdSIOS-CIEUCdCIEUCdCHIEUCHdTHIEUTHdPHIEUPHcKAPYEOUNPIEUPcKAPYEOUNSSANGPIEUP",
    "cSIOS-KIYEOKdNIEUNdTIKEUTdRIEULdMIEUMdPIEUPdPIEUP-KIYEOKdSSANGSIOSdIEUNGdCIEUCdCHIEUCH",
    "dKHIEUKHdTHIEUTHdPHIEUPHdHIEUHcCHITUEUMSIOScCHITUEUMSSANGSIOScCEONGCHIEUMSIOS",
    "cCEONGCHIEUMSSANGSIOScPANSIOScIEUNG-KIYEOKdTIKEUTdMIEUMdPIEUPdSIOSdPANSIOScSSANGIEUNG",
    "cIEUNG-CIEUCdCHIEUCHdTHIEUTHdPHIEUPHcYESIEUNGcCIEUC-IEUNGcCHITUEUMCIEUCcCHITUEUMSSANGCIEUC",
    "cCEONGCHIEUMCIEUCcCEONGCHIEUMSSANGCIEUCcCHIEUCH-KHIEUKHdHIEUHcCHITUEUMCHIEUCH",
    "cCEONGCHIEUMCHIEUCHcPHIEUPH-PIEUPcKAPYEOUNPHIEUPHcSSANGHIEUHcYEORINHIEUHcKIYEOK-TIKEUT",
    "cNIEUN-SIOSdCIEUCdHIEUHcTIKEUT-RIEULcFILLERoJUNGSEONG cAcAEcYAcYAEcEOcEcYEOcYEcOcWAcWAEcOEcYO",
    "cUcWEOcWEcWIcYUcEUcYIcIcA-OdUcYA-OdYOcEO-OdUdEUcYEO-OdUcO-EOdEdYEdOdUcYO-YAdYAEdYEOdOdIcU-A",
    "dAEdEO-EUdYEdUcYU-AdEOdEdYEOdYEdUdIcEU-UdEUcYI-UcI-AdYAdOdUdEUdARAEAcARAEAcARAEA-EOdUdI",
    "cSSANGARAEAcA-EUcYA-UcYEO-YApO-dYAEbJONGSEONG KIYEOKcSSANGKIYEOKcKIYEOK-SIOScNIEUN",
    "cNIEUN-CIEUCdHIEUHcTIKEUTcRIEULcRIEUL-KIYEOKdMIEUMdPIEUPdSIOSdTHIEUTHdPHIEUPHdHIEUHcMIEUM",
    "cPIEUPcPIEUP-SIOScSIOScSSANGSIOScIEUNGcCIEUCcCHIEUCHcKHIEUKHcTHIEUTHcPHIEUPHcHIEUH",
    "cKIYEOK-RIEULdSIOS-KIYEOKcNIEUN-KIYEOKdTIKEUTdSIOSdPANSIOSdTHIEUTHcTIKEUT-KIYEOKdRIEUL",
    "cRIEUL-KIYEOK-SIOSdNIEUNdTIKEUTdTIKEUT-HIEUHcSSANGRIEULcRIEUL-MIEUM-KIYEOKeSIOSqPIEUP-eHIEUH",
    "dKAPYEOUNPIEUPdSSANGSIOSdPANSIOSdKHIEUKHdYEORINHIEUHcMIEUM-KIYEOKdRIEULdPIEUPdSIOSdSSANGSIOS",
    "dPANSIOSdCHIEUCHdHIEUHcKAPYEOUNMIEUMcPIEUP-RIEULdPHIEUPHdHIEUHcKAPYEOUNPIEUPcSIOS-KIYEOK",
    "dTIKEUTdRIEULdPIEUPcPANSIOScIEUNG-KIYEOKdSSANGKIYEOKcSSANGIEUNGcIEUNG-KHIEUKHcYESIEUNG",
    "cYESIEUNG-SIOSdPANSIOScPHIEUPH-PIEUPcKAPYEOUNPHIEUPHcHIEUH-NIEUNdRIEULdMIEUMdPIEUP",
    "cYEORINHIEUHcKIYEOK-NIEUNdPIEUPdCHIEUCHdKHIEUKHdHIEUHcSSANGNIEUNaETHIOPIC SYLLABLE HAcHUcHI",
    "cHAAcHEEcHEcHOcHOAcLAcLUcLIcLAAcLEEcLEcLOcLWAcHHAcHHUcHHIcHHAAcHHEEcHHEcHHOcHHWAcMAcMUcMIcMAA",
    "cMEEcMEcMOcMWAcSZAcSZUcSZIcSZAAcSZEEcSZEcSZOcSZWAcRAcRUcRIcRAAcREEcREcROcRWAcSAcSUcSIcSAAcSEE",
    "cSEcSOcSWAcSHAcSHUcSHIcSHAAcSHEEcSHEcSHOcSHWAcQAcQUcQIcQAAcQEEcQEcQOcQOAcQWA",
    "124AcQWIcQWAAcQWEEcQWE", "1250cQHAcQHUcQHIcQHAAcQHEEcQHEcQHO", "1258cQHWA",
    "125AcQHWIcQHWAAcQHWEEcQHWE",
    "1260cBAcBUcBIcBAAcBEEcBEcBOcBWAcVAcVUcVIcVAAcVEEcVEcVOcVWAcTAcTUcTIcTAAcTEEcTEcTOcTWAcCAcCU",
    "cCIcCAAcCEEcCEcCOcCWAcXAcXUcXIcXAAcXEEcXEcXOcXOAcXWA", "128AcXWIcXWAAcXWEEcXWE",
    "1290cNAcNUcNIcNAAcNEEcNEcNOcNWAcNYAcNYUcNYIcNYAAcNYEEcNYEcNYOcNYWAcGLOTTAL AdUdIdAAdEEdEdOdWA",
    "cKAcKUcKIcKAAcKEEcKEcKOcKOAcKWA", "12B2cKWIcKWAAcKWEEcKWE",
    "12B8cKXAcKXUcKXIcKXAAcKXEEcKXEcKXO", "12C0cKXWA", "12C2cKXWIcKXWAAcKXWEEcKXWE",
    "12C8cWAcWUcWIcWAAcWEEcWEcWOcWOAcPHARYNGEAL AdUdIdAAdEEdEdO",
    "12D8cZAcZUcZIcZAAcZEEcZEcZOcZWAcZHAcZHUcZHIcZHAAcZHEEcZHEcZHOcZHWAcYAcYUcYIcYAAcYEEcYEcYOcYOA",
    "cDAcDUcDIcDAAcDEEcDEcDOcDWAcDDAcDDUcDDIcDDAAcDDEEcDDEcDDOcDDWAcJAcJUcJIcJAAcJEEcJEcJOcJWAcGA",
    "cGUcGIcGAAcGEEcGEcGOcGOAcGWA", "1312cGWIcGWAAcGWEEcGWE",
    "1318cGGAcGGUcGGIcGGAAcGGEEcGGEcGGOcGGWAAcTHAcTHUcTHIcTHAAcTHEEcTHEcTHOcTHWAcCHAcCHUcCHIcCHAA",
    "cCHEEcCHEcCHOcCHWAcPHAcPHUcPHIcPHAAcPHEEcPHEcPHOcPHWAcTSAcTSUcTSIcTSAAcTSEEcTSEcTSOcTSWAcTZA",
    "cTZUcTZIcTZAAcTZEEcTZEcTZOcTZOAcFAcFUcFIcFAAcFEEcFEcFOcFWAcPAcPUcPIcPAAcPEEcPEcPOcPWAcRYAcMYA",
    "cFYA", "135DbCOMBINING GEMINATION AND VOWEL LENGTH MARKcVOWEL LENGTH MARKcGEMINATION MARK",
    "bSECTION MARKbWORDSPACEbFULL STOPbCOMMAbSEMICOLONbCOLONbPREFACE COLONbQUESTION MARK",
    "bPARAGRAPH SEPARATORbDIGIT ONEcTWOcTHREEcFOURcFIVEcSIXcSEVENcEIGHTcNINEbNUMBER TENcTWENTY",
    "cTHIRTYcFORTYcFIFTYcSIXTYcSEVENTYcEIGHTYcNINETYcHUNDREDcTEN THOUSAND",
    "1380bSYLLABLE SEBATBEIT MWAcMWIcMWEEcMWEcSEBATBEIT BWAcBWIcBWEEcBWEcSEBATBEIT FWAcFWIcFWEE",
    "cFWEcSEBATBEIT PWAcPWIcPWEEcPWEbTONAL MARK YIZETdDERETdRIKRIKdSHORT RIKRIKdDIFATdKENATdCHIRET",
    "dHIDETdDERET-HIDETdKURT",
    "13A0aCHEROKEE LETTER AcEcIcOcUcVcGAcKAcGEcGIcGOcGUcGVcHAcHEcHIcHOcHUcHVcLAcLEcLIcLOcLUcLVcMA",
    "cMEcMIcMOcMUcNAcHNAcNAHcNEcNIcNOcNUcNVcQUAcQUEcQUIcQUOcQUUcQUVcSAcScSEcSIcSOcSUcSVcDAcTAcDE",
    "cTEcDIcTIcDOcDUcDVcDLAcTLAcTLEcTLIcTLOcTLUcTLVcTSAcTSEcTSIcTSOcTSUcTSVcWAcWEcWIcWOcWUcWVcYA",
    "cYEcYIcYOcYUcYVcMV", "13F8bSMALL LETTER YEdYIdYOdYUdYVdMV",
    "1400aCANADIAN SYLLABICS HYPHENcEcAAIcIcIIcOcOOcY-CREE OOcCARRIER EEdIcAcAAcWEcWEST-CREE WEcWI",
    "cWEST-CREE WIcWIIcWEST-CREE WIIcWOcWEST-CREE WOcWOOcWEST-CREE WOOcNASKAPI WOOcWAcWEST-CREE WA",
    "cWAAcWEST-CREE WAAcNASKAPI WAAcAIcY-CREE WcGLOTTAL STOPcFINAL ACUTEdGRAVEdBOTTOM HALF RING",
    "qTOP qRIGHT dRINGdDOUBLE ACUTEeSHORT VERTICAL STROKESdMIDDLE DOTdSHORT HORIZONTAL STROKEdPLUS",
    "dDOWN TACKcENcINcONcANcPEcPAAIcPIcPIIcPOcPOOcY-CREE POOcCARRIER HEEdHIcPAcPAAcPWE",
    "cWEST-CREE PWEcPWIcWEST-CREE PWIcPWIIcWEST-CREE PWIIcPWOcWEST-CREE PWOcPWOOcWEST-CREE PWOO",
    "cPWAcWEST-CREE PWAcPWAAcWEST-CREE PWAApY-cPcWEST-CREE PcCARRIER HcTEcTAAIcTIcTIIcTOcTOO",
    "cY-CREE TOOcCARRIER DEEdDIcTAcTAAcTWEcWEST-CREE TWEcTWIcWEST-CREE TWIcTWIIcWEST-CREE TWIIcTWO",
    "cWEST-CREE TWOcTWOOcWEST-CREE TWOOcTWAcWEST-CREE TWAcTWAAcWEST-CREE TWAAcNASKAPI TWAAcTcTTE",
    "cTTIcTTOcTTAcKEcKAAIcKIcKIIcKOcKOOcY-CREE KOOcKAcKAAcKWEcWEST-CREE KWEcKWIcWEST-CREE KWIcKWII",
    "cWEST-CREE KWIIcKWOcWEST-CREE KWOcKWOOcWEST-CREE KWOOcKWAcWEST-CREE KWAcKWAAcWEST-CREE KWAA",
    "cNASKAPI KWAAcKcKWcSOUTH-SLAVEY KEHeKIHeKOHeKAHcCEcCAAIcCIcCIIcCOcCOOcY-CREE COOcCAcCAAcCWE",
    "cWEST-CREE CWEcCWIcWEST-CREE CWIcCWIIcWEST-CREE CWIIcCWOcWEST-CREE CWOcCWOOcWEST-CREE CWOO",
    "cCWAcWEST-CREE CWAcCWAAcWEST-CREE CWAAcNASKAPI CWAAcCcSAYISI THcMEcMAAIcMIcMIIcMOcMOO",
    "cY-CREE MOOcMAcMAAcMWEcWEST-CREE MWEcMWIcWEST-CREE MWIcMWIIcWEST-CREE MWIIcMWOcWEST-CREE MWO",
    "cMWOOcWEST-CREE MWOOcMWAcWEST-CREE MWAcMWAAcWEST-CREE MWAAcNASKAPI MWAAcMcWEST-CREE McMH",
    "cATHAPASCAN MpSAYISI cNEcNAAIcNIcNIIcNOcNOOcY-CREE NOOcNAcNAAcNWEcWEST-CREE NWEcNWA",
    "cWEST-CREE NWAcNWAAcWEST-CREE NWAAcNASKAPI NWAAcNcCARRIER NGcNHcLEcLAAIcLIcLIIcLOcLOO",
    "cY-CREE LOOcLAcLAAcLWEcWEST-CREE LWEcLWIcWEST-CREE LWIcLWIIcWEST-CREE LWIIcLWOcWEST-CREE LWO",
    "cLWOOcWEST-CREE LWOOcLWAcWEST-CREE LWAcLWAAcWEST-CREE LWAAcLcWEST-CREE LcMEDIAL LcSEcSAAIcSI",
    "cSIIcSOcSOOcY-CREE SOOcSAcSAAcSWEcWEST-CREE SWEcSWIcWEST-CREE SWIcSWIIcWEST-CREE SWIIcSWO",
    "cWEST-CREE SWOcSWOOcWEST-CREE SWOOcSWAcWEST-CREE SWAcSWAAcWEST-CREE SWAAcNASKAPI SWAAcS",
    "cATHAPASCAN ScSWcBLACKFOOT ScMOOSE-CREE SKcNASKAPI SKWdS-WdSPWAdSTWAdSKWAdSCWAcSHEcSHIcSHII",
    "cSHOcSHOOcSHAcSHAAcSHWEcWEST-CREE SHWEcSHWIcWEST-CREE SHWIcSHWIIcWEST-CREE SHWIIcSHWO",
    "cWEST-CREE SHWOcSHWOOcWEST-CREE SHWOOcSHWAcWEST-CREE SHWAcSHWAAcWEST-CREE SHWAAcSHcYEcYAAIcYI",
    "cYIIcYOcYOOcY-CREE YOOcYAcYAAcYWEcWEST-CREE YWEcYWIcWEST-CREE YWIcYWIIcWEST-CREE YWIIcYWO",
    "cWEST-CREE YWOcYWOOcWEST-CREE YWOOcYWAcWEST-CREE YWAcYWAAcWEST-CREE YWAAcNASKAPI YWAAcY",
    "cBIBLE-CREE YpWEST-cSAYISI YIcREcR-CREE REcWEST-CREE LEcRAAIcRIcRIIcROcROOcWEST-CREE LOcRA",
    "cRAAcWEST-CREE LAcRWAAcWEST-CREE RWAAcRcWEST-CREE RcMEDIAL RcFEcFAAIcFIcFIIcFOcFOOcFAcFAA",
    "cFWAAcWEST-CREE FWAAcFcTHEcN-CREE THEcTHIcN-CREE THIcTHIIcN-CREE THIIcTHOcTHOOcTHAcTHAAcTHWAA",
    "cWEST-CREE THWAAcTHcTTHEcTTHIcTTHOcTTHAcTTHcTYEcTYIcTYOcTYAcNUNAVIK HEdHIdHIIdHOdHOOdHAdHAAdH",
    "pNUNAVUT cHKcQAAIcQIcQIIcQOcQOOcQAcQAAcQcTLHEcTLHIcTLHOcTLHAcWEST-CREE REeRIeROeRAcNGAAIcNGI",
    "cNGIIcNGOcNGOOcNGAcNGAAcNGcNNGcSAYISI SHEdSHIdSHOdSHAcWOODS-CREE THEeTHIeTHOeTHAeTHcLHIcLHII",
    "cLHOcLHOOcLHAcLHAAcLHcTH-CREE THEeTHIeTHIIeTHOeTHOOeTHAeTHAAeTHcAIVILIK BcBLACKFOOT EdIdOdA",
    "dWEdWIdWOdWAdNEdNIdNOdNAdKEdKIdKOdKAcSAYISI HEdHIdHOdHAcCARRIER GHUdGHOdGHEdGHEEdGHIdGHAdRU",
    "dROdREdREEdRIdRAdWUdWOdWEdWEEdWIdWAdHWUdHWOdHWEdHWEEdHWIdHWAdTHUdTHOdTHEdTHEEdTHIdTHAdTTUdTTO",
    "dTTEdTTEEdTTIdTTAdPUdPOdPEdPEEdPIdPAdPdGUdGOdGEdGEEdGIdGAdKHUdKHOdKHEdKHEEdKHIdKHAdKKUdKKO",
    "dKKEdKKEEdKKIdKKAdKKdNUdNOdNEdNEEdNIdNAdMUdMOdMEdMEEdMIdMAdYUdYOdYEdYEEdYIdYAdJUpSAYISI ",
    "cCARRIER JOdJEdJEEdJIpSAYISI cCARRIER JAdJJUdJJOdJJEdJJEEdJJIdJJAdLUdLOdLEdLEEdLIdLAdDLUdDLO",
    "dDLEdDLEEdDLIdDLAdLHUdLHOdLHEdLHEEdLHIdLHAdTLHUdTLHOdTLHEdTLHEEdTLHIdTLHAdTLUdTLOdTLEdTLEE",
    "dTLIdTLAdZUdZOdZEdZEEdZIdZAdZdINITIAL ZdDZUdDZOdDZEdDZEEdDZIdDZAdSUdSOdSEdSEEdSIdSAdSHUdSHO",
    "dSHEdSHEEdSHIdSHAdSHdTSUdTSOdTSEdTSEEdTSIdTSAdCHUdCHOdCHEdCHEEdCHIdCHAdTTSUdTTSOdTTSEdTTSEE",
    "dTTSIdTTSAcCHI SIGNcFULL STOPcQAIcNGAIcNNGIcNNGIIcNNGOcNNGOOcNNGAcNNGAAcWOODS-CREE THWEEeTHWI",
    "eTHWIIeTHWOeTHWOOeTHWAeTHWAAeFINAL THcBLACKFOOT WaOGHAM SPACE MARKbLETTER BEITHcLUIScFEARN",
    "cSAILcNIONcUATHcDAIRcTINNEcCOLLcCEIRTcMUINcGORTcNGEADALcSTRAIFcRUIScAILMcONNcURcEADHADH",
    "cIODHADHcEABHADHcORcUILLEANNcIFINcEAMHANCHOLLcPEITHbFEATHER MARKbREVERSED FEATHER MARK",
    "16A0aRUNIC LETTER FEHU FEOH FE FcVcURUZ UR UcYRcYcWcTHURISAZ THURS THORNcETHcANSUZ AcOS O",
    "cAC AcAESCcLONG-BRANCH-OSS OpSHORT-TWIG-cOcOEcONcRAIDO RAD REID RcKAUNAcCENcKAUN KcGcENG",
    "cGEBO GYFU GcGARcWUNJO WYNN WcHAGLAZ HpHAEGL cLONG-BRANCH-HAGALL HpSHORT-TWIG-",
    "cNAUDIZ NYD NAUD NpSHORT-TWIG-cDOTTED-NcISAZ IS ISS IcEcJERAN JcGERcLONG-BRANCH-AR AE",
    "cSHORT-TWIG-AR AcIWAZ EOHcPERTHO PEORTH PcALGIZ EOLHXcSOWILO ScSIGEL LONG-BRANCH-SOL S",
    "cSHORT-TWIG-SOL ScCcZcTIWAZ TIR TYR TpSHORT-TWIG-cDcBERKANAN BEORC BJARKAN BpSHORT-TWIG-",
    "cDOTTED-PpOPEN-cEHWAZ EH EcMANNAZ MAN McLONG-BRANCH-MADR MpSHORT-TWIG-cLAUKAZ LAGU LOGR L",
    "cDOTTED-LcINGWAZcINGcDAGAZ DAEG DcOTHALAN ETHEL OcEARcIORcCWEORTHcCALCcCEALCcSTAN",
    "cLONG-BRANCH-YRpSHORT-TWIG-cICELANDIC-YRcQcXbSINGLE PUNCTUATIONoMULTIPLE oCROSS ",
    "bARLAUG SYMBOLoTVIMADUR oBELGTHOR bLETTER KcSHcOOcFRANKS CASKET OSeISeEHeACeAESC",
    "1700aTAGALOG LETTER AcIcUcKAcGAcNGAcTAcDAcNAcPAcBAcMAcYAcRAcLAcWAcSAcHAbVOWEL SIGN IdU",
    "bSIGN VIRAMAcPAMUDPOD",
    "171FbLETTER ARCHAIC RAaHANUNOO LETTER AcIcUcKAcGAcNGAcTAcDAcNAcPAcBAcMAcYAcRAcLAcWAcSAcHA",
    "bVOWEL SIGN IdUbSIGN PAMUDPODaPHILIPPINE SINGLE PUNCTUATIONoDOUBLE ",
    "1740aBUHID LETTER AcIcUcKAcGAcNGAcTAcDAcNAcPAcBAcMAcYAcRAcLAcWAcSAcHAbVOWEL SIGN IdU",
    "1760aTAGBANWA LETTER AcIcUcKAcGAcNGAcTAcDAcNAcPAcBAcMAcYA", "176EcLAcWAcSA",
    "1772bVOWEL SIGN IdU",
    "1780aKHMER LETTER KAcKHAcKOcKHOcNGOcCAcCHAcCOcCHOcNYOcDAcTTHAcDOcTTHOcNNOcTAcTHAcTOcTHOcNOcBA",
    "cPHAcPOcPHOcMOcYOcROcLOcVOcSHAcSSOcSAcHAcLAcQAbINDEPENDENT VOWEL QAQdQAAdQIdQIIdQUdQUKdQUU",
    "dQUUVdRYdRYYdLYdLYYdQEdQAIdQOO TYPE ONEfTWOdQAUbVOWEL INHERENT AQdAApSIGN dIdIIdYdYYdUdUUdUA",
    "dOEdYAdIEdEdAEdAIdOOdAUbSIGN NIKAHITcREAHMUKcYUUKALEAPINTUcMUUSIKATOANcTRIISAPcBANTOCcROBAT",
    "cTOANDAKHIATcKAKABATcAHSDAcSAMYOK SANNYAcVIRIAMcCOENGcBATHAMASATcKHANcBARIYOOSAN",
    "cCAMNUC PII KUUHcLEK TOOcBEYYALcPHNAEK MUANcKOOMUUTbCURRENCY SYMBOL RIELbSIGN AVAKRAHASANYA",
    "cATTHACAN", "17E0bDIGIT ZEROcONEcTWOcTHREEcFOURcFIVEcSIXcSEVENcEIGHTcNINE",
    "17F0bSYMBOL LEK ATTAK SONeMUOYePIIeBEIeBUONePRAMePRAM-MUOYfPIIfBEIfBUON",
    "1800aMONGOLIAN BIRGAbELLIPSISbCOMMAbFULL STOPbCOLONbFOUR DOTSbTODO SOFT HYPHEN",
    "bSIBE SYLLABLE BOUNDARY MARKERbMANCHU COMMAcFULL STOPbNIRUGUbFREE VARIATION SELECTOR ONEeTWO",
    "eTHREEbVOWEL SEPARATORbFREE VARIATION SELECTOR FOURbDIGIT ZEROcONEcTWOcTHREEcFOURcFIVEcSIX",
    "cSEVENcEIGHTcNINE",
    "1820bLETTER AcEcIcOcUcOEcUEcEEcNAcANGcBAcPAcQAcGAcMAcLAcSAcSHAcTAcDAcCHAcJAcYAcRAcWAcFAcKA",
    "cKHAcTSAcZAcHAAcZRAcLHAcZHIcCHIcTODO LONG VOWEL SIGNdEdIdOdUdOEdUEdANGdBAdPAdQAdGAdMAdTAdDA",
    "dCHAdJAdTSAdYAdWAdKAdGAAdHAAdJIAdNIAdDZAcSIBE EdIdIYdUEdUdANGdKAdGAdHAdPAdSHAdTAdDAdJAdFAdGAA",
    "dHAAdTSAdZAdRAAdCHAdZHAcMANCHU IdKAdRAdFAdZHAcCHA WITH TWO DOTS",
    "1880cALI GALI ANUSVARA ONErVISARGA eDAMARUeUBADAMAeINVERTED UBADAMAeBALUDAeTHREE BALUDAeAeI",
    "eKAeNGAeCAeTTAeTTHAeDDAeNNAeTAeDAePAePHAeSSAeZHAeZAeAHcTODO ALI GALI TAfZHA",
    "cMANCHU ALI GALI GHAfNGAfCAfJHAfTTAfDDHAfTAfDHAfSSAfCYAfZHAfZAcALI GALI HALF UfYA",
    "cMANCHU ALI GALI BHAcALI GALI DAGALGAcMANCHU ALI GALI LHA",
    "18B0aCANADIAN SYLLABICS OYcAYcAAYcWAYcPOYcPAYcPWOYcTAYcKAYcKWAYcMAYcNOYcNAYcLAYcSOYcSAYcSHOY",
    "cSHAYcSHWOYcYOYcYAYcRAYcNWIcOJIBWAY NWIcNWIIcOJIBWAY NWIIcNWOcOJIBWAY NWOcNWOOcOJIBWAY NWOO",
    "cRWEEcRWIcRWIIcRWOcRWOOcRWAcOJIBWAY PdTdKdCdMdNdSdSHcEASTERN WpWESTERN cFINAL SMALL RING",
    "dRAISED DOTcR-CREE RWEcWEST-CREE LOOeLAAcTHWEcTHWAcTTHWEcTTHOOcTTHAAcTLHWEcTLHOOcSAYISI SHWE",
    "dSHOOdHOOcCARRIER GWUdDENE GEEdGAAdGWAcSAYISI JUUcCARRIER JWAcBEAVER DENE LeR",
    "cCARRIER DENTAL S",
    "1900aLIMBU VOWEL-CARRIER LETTERbLETTER KAcKHAcGAcGHAcNGAcCAcCHAcJAcJHAcYANcTAcTHAcDAcDHAcNA",
    "cPAcPHAcBAcBHAcMAcYAcRAcLAcWAcSHAcSSAcSAcHAcGYANcTRA",
    "1920bVOWEL SIGN AdIdUdEEdAIdOOdAUdEdObSUBJOINED LETTER YAdRAdWA",
    "1930bSMALL LETTER KAdNGAdANUSVARAdTAdNAdPAdMAdRAdLAbSIGN MUKPHRENGcKEMPHRENGcSA-I", "1940cLOO",
    "1944bEXCLAMATION MARKoQUESTION bDIGIT ZEROcONEcTWOcTHREEcFOURcFIVEcSIXcSEVENcEIGHTcNINE",
    "aTAI LE LETTER KAdXAdNGAdTSAdSAdYAdTAdTHAdLAdPAdPHAdMAdFAdVAdHAdQAdKHAdTSHAdNAdAdIdEEdEHdUdOO",
    "dOdUEdEdAUEdAI", "1970dTONE-2e3e4e5e6",
    "1980aNEW TAI LUE LETTER HIGH QArLOW eHIGH KAfXAfNGAeLOW KAfXAfNGAeHIGH TSAfSAfYAeLOW TSAfSA",
    "fYAeHIGH TAfTHAfNAeLOW TAfTHAfNAeHIGH PAfPHAfMAeLOW PAfPHAfMAeHIGH FAfVAfLAeLOW FAfVAfLA",
    "eHIGH HAfDAfBAeLOW HAfDAfBAeHIGH KVAfXVAeLOW KVAfXVAeHIGH SUArLOW ",
    "19B0dVOWEL SIGN VOWEL SHORTENERfAAfIIfUfUUfEfAEfOfOAfUEfAYfAAYfUYfOYfOAYfUEYfIY",
    "dLETTER FINAL VfNGfNfMfKfDfBdTONE MARK-1f2",
    "19D0dDIGIT ZEROeONEeTWOeTHREEeFOUReFIVEeSIXeSEVENeEIGHTeNINEdTHAM DIGIT ONE",
    "19DEdSIGN LAEeLAEVaKHMER SYMBOL PATHAMASATcMUOY KOETpPII pBEI pBUON pPRAM cPRAM-MUOY KOET",
    "qPII qBEI qBUON cDAP KOETcDAP-MUOY KOETqPII qBEI qBUON qPRAM cTUTEYASATcMUOY ROCpPII pBEI ",
    "pBUON pPRAM cPRAM-MUOY ROCqPII qBEI qBUON cDAP ROCcDAP-MUOY ROCqPII qBEI qBUON qPRAM ",
    "aBUGINESE LETTER KAcGAcNGAcNGKAcPAcBAcMAcMPAcTAcDAcNAcNRAcCAcJAcNYAcNYCAcYAcRAcLAcVAcSAcAcHA",
    "bVOWEL SIGN IdUdEdOdAE",
    "1A1EbPALLAWAbEND OF SECTIONaTAI THAM LETTER HIGH KAeKHAeKXAdLOW KAeKXAeKHAdNGAdHIGH CAeCHA",
    "dLOW CAeSAeCHAdNYAdRATAdHIGH RATHAdDAdLOW RATHAdRANAdHIGH TAeTHAdLOW TAeTHAdNAdBAdHIGH PAePHA",
    "eFAdLOW PAeFAePHAdMAdLOW YAqHIGH dRAdRUEdLAdLUEdWAdHIGH SHAeSSAeSAeHAdLLAdAdLOW HAdIdIIdUdUU",
    "dEEdOOdLAEdGREAT SAcCONSONANT SIGN MEDIAL RAfLAeLA TANG LAIcSIGN MAI KANG LAI",
    "cCONSONANT SIGN FINAL NGAeLOW PAeHIGH RATHA OR LOW PAeMAeBAeSA",
    "1A60cSIGN SAKOTcVOWEL SIGN AeMAI SATeAAeTALL AAeIeIIeUEeUUEeUeUUeOeOA BELOWeOYeEeAEeOOeAI",
    "eTHAM AIeOA ABOVEcSIGN MAI KANGdTONE-1e2dKHUEN TONE-3f4f5dRA HAAMdMAI SAMdKHUEN-LUE KARAN",
    "1A7FcCOMBINING CRYPTOGRAMMIC DOTcHORA DIGIT ZEROeONEeTWOeTHREEeFOUReFIVEeSIXeSEVENeEIGHTeNINE",
    "1A90cTHAM DIGIT ZEROeONEeTWOeTHREEeFOUReFIVEeSIXeSEVENeEIGHTeNINE",
    "1AA0cSIGN WIANGdWIANGWAAKdSAWANdKEOWdHOYdDOKMAIdREVERSED ROTATED RANAdMAI YAMOKdKAANdKAANKUU",
    "dSATKAANdSATKAANKUUdHANGdCAANG",
    "1AB0aCOMBINING DOUBLED CIRCUMFLEX ACCENTbDIAERESIS-RINGbINFINITYbDOWNWARDS ARROWbTRIPLE DOT",
    "bX-X BELOWoWIGGLY LINE oOPEN MARK bDOUBLE OPEN MARK BELOWoLIGHT CENTRALIZATION STROKE ",
    "oSTRONG bPARENTHESES ABOVEbDOUBLE PARENTHESES ABOVEbPARENTHESES BELOWcOVERLAY",
    "bLATIN SMALL LETTER W BELOWeTURNED W BELOWbLEFT PARENTHESIS ABOVE LEFT",
    "bRIGHT PARENTHESIS ABOVE RIGHTbLEFT PARENTHESIS BELOW LEFTbRIGHT PARENTHESIS BELOW RIGHT",
    "bSQUARE BRACKETS ABOVEoNUMBER SIGN bINVERTED DOUBLE ARCH ABOVEbPLUS SIGN ABOVE",
    "bDOUBLE PLUS SIGN ABOVEeBELOWbTRIPLE ACUTE ACCENTbLATIN SMALL LETTER INSULAR GfRfT",
    "1B00aBALINESE SIGN ULU RICEMdCANDRAcCECEKcSURANGcBISAHbLETTER AKARAcAKARA TEDUNGcIKARA",
    "cIKARA TEDUNGcUKARAcUKARA TEDUNGcRA REPAdREPA TEDUNGcLA LENGAdLENGA TEDUNGcEKARAcAIKARAcOKARA",
    "cOKARA TEDUNGcKAcKA MAHAPRANAcGAcGA GORAcNGAcCAcCA LACAcJAcJA JERAcNYAcTA LATIK",
    "dMURDA MAHAPRANAcDA MURDA ALPAPRANAeMAHAPRANAcNA RAMBATcTAcTA TAWAcDAcDA MADUcNAcPAcPA KAPAL",
    "cBAcBA KEMBANGcMAcYAcRAcLAcWAcSA SAGAdSAPAcSAcHAbSIGN REREKANbVOWEL SIGN TEDUNGdULUdULU SARI",
    "dSUKUdSUKU ILUTdRA REPAeREPA TEDUNGdLA LENGAeLENGA TEDUNGdTALINGdTALING REPAeTEDUNG",
    "eREPA TEDUNGdPEPETdPEPET TEDUNGbADEG ADEGbLETTER KAF SASAKpKHOT pTZIR pEF pVE pZAL pASYURA ",
    "cARCHAIC JNYA",
    "1B50bDIGIT ZEROcONEcTWOcTHREEcFOURcFIVEcSIXcSEVENcEIGHTcNINEbPANTIbPAMADAbWINDU",
    "bCARIK PAMUNGKAHcSIKIcPARERENbPAMENENGbMUSICAL SYMBOL DONGdDENGdDUNGdDANGdDANG SURANGdDING",
    "dDAENGdDEUNGdDAINGdDANG GEDEdCOMBINING TEGEHeENDEPeKEMPULeKEMPLIeJEGOGANeKEMPUL WITH JEGOGAN",
    "rKEMPLI eBENDEeGONGdRIGHT-HAND OPEN DUGgDAGfCLOSED TUKgTAKdLEFT-HAND OPEN PANGgPUNG",
    "fCLOSED PLAKgPLUKfOPEN PINGbPANTI LANTANGoPAMADA ",
    "1B80aSUNDANESE SIGN PANYECEKcPANGLAYARcPANGWISADbLETTER AcIcUcAEcOcEcEUcKAcQAcGAcNGAcCAcJAcZA",
    "cNYAcTAcDAcNAcPAcFAcVAcBAcMAcYAcRAcLAcWAcSAcXAcHAbCONSONANT SIGN PAMINGKALdPANYAKRAdPANYIKU",
    "bVOWEL SIGN PANGHULUdPANYUKUdPANAELAENGdPANOLONGdPAMEPETdPANEULEUNGbSIGN PAMAAEHcVIRAMA",
    "bCONSONANT SIGN PASANGAN MAeWAbLETTER KHAcSYAbDIGIT ZEROcONEcTWOcTHREEcFOURcFIVEcSIXcSEVEN",
    "cEIGHTcNINEbAVAGRAHAbLETTER REUcLEUcBHAcFINAL KdMaBATAK LETTER AcSIMALUNGUN AcHA",
    "cSIMALUNGUN HApMANDAILING cBAcKARO BAcPAcSIMALUNGUN PAcNAcMANDAILING NAcWAcSIMALUNGUN WA",
    "pPAKPAK cGAcSIMALUNGUN GAcJAcDAcRAcSIMALUNGUN RAcMAcSIMALUNGUN MAcSOUTHERN TApNORTHERN cSA",
    "cSIMALUNGUN SApMANDAILING cYAcSIMALUNGUN YAcNGAcLAcSIMALUNGUN LAcNYAcCAcNDAcMBAcIcU",
    "bSIGN TOMPIbVOWEL SIGN EdPAKPAK EdEEdIdKARO IdOdKARO OdUdU FOR SIMALUNGUN SA",
    "bCONSONANT SIGN NGdHbPANGOLATbPANONGONAN",
    "1BFCbSYMBOL BINDU NA METEKdPINARBORASdJUDULdPANGOLATaLEPCHA LETTER KAcKLAcKHAcGAcGLAcNGAcCA",
    "cCHAcJAcNYAcTAcTHAcDAcNAcPAcPLAcPHAcFAcFLAcBAcBLAcMAcMLAcTSAcTSHAcDZAcYAcRAcLAcHAcHLAcVAcSA",
    "cSHAcWAcAbSUBJOINED LETTER YAdRAbVOWEL SIGN AAdIdOdOOdUdUUdEbCONSONANT SIGN KdMdLdNdPdRdT",
    "dNYIN-DOdKANGbSIGN RANcNUKTA",
    "1C3BbPUNCTUATION TA-ROLcNYET THYOOM TA-ROLcCER-WAcTSHOOK CER-WAcTSHOOKbDIGIT ZEROcONEcTWO",
    "cTHREEcFOURcFIVEcSIXcSEVENcEIGHTcNINE",
    "1C4DbLETTER TTAcTTHAcDDAaOL CHIKI DIGIT ZEROdONEdTWOdTHREEdFOURdFIVEdSIXdSEVENdEIGHTdNINE",
    "cLETTER LAdATdAGdANGdALdLAAdAAKdAAJdAAMdAAWdLIdISdIHdINYdIRdLUdUCdUDdUNNdUYdLEdEPdEDDdENdERR",
    "dLOdOTTdOBdOVdOHcMU TTUDDAGcGAAHLAA TTUDDAAGcMU-GAAHLAA TTUDDAAGcRELAAcPHAARKAAcAHAD",
    "cPUNCTUATION MUCAADdDOUBLE MUCAADaCYRILLIC SMALL LETTER ROUNDED VEdLONG-LEGGED DEdNARROW O",
    "dWIDE ESdTALL TEdTHREE-LEGGED TEdTALL HARD SIGNeYATdUNBLENDED UK",
    "1C90aGEORGIAN MTAVRULI CAPITAL LETTER ANeBANeGANeDONeENeVINeZENeTANeINeKANeLASeMANeNAReONePAR",
    "eZHAReRAEeSANeTAReUNePHAReKHAReGHANeQAReSHINeCHINeCANeJILeCILeCHAReXANeJHANeHAEeHEeHIEeWEeHAR",
    "eHOEeFIeYNeELIFIeTURNED GANeAIN",
    "1CBDeAENeHARD SIGNrLABIAL aSUNDANESE PUNCTUATION BINDU SURYAdPANGLONGdPURNAMAdCAKRA",
    "dLEU SATANGAqKA qDA qBA ",
    "1CD0aVEDIC TONE KARSHANAcSHARAcPRENKHAbSIGN NIHSHVASAcYAJURVEDIC MIDLINE SVARITA",
    "bTONE YAJURVEDIC AGGRAVATED INDEPENDENT SVARITAdINDEPENDENT SVARITA",
    "dKATHAKA INDEPENDENT SVARITAcCANDRA BELOWcYAJURVEDIC KATHAKA INDEPENDENT SVARITA SCHROEDER",
    "cDOUBLE SVARITApTRIPLE cKATHAKA ANUDATTAcDOT BELOWcTWO DOTS BELOWpTHREE ",
    "cRIGVEDIC KASHMIRI INDEPENDENT SVARITAcATHARVAVEDIC INDEPENDENT SVARITAbSIGN VISARGA SVARITA",
    "dUDATTAcREVERSED VISARGA UDATTAcVISARGA ANUDATTAcREVERSED VISARGA ANUDATTA",
    "cVISARGA UDATTA WITH TAILqANUDATTA cANUSVARA ANTARGOMUKHAdBAHIRGOMUKHAdVAMAGOMUKHA",
    "dVAMAGOMUKHA WITH TAILcTIRYAKcHEXIFORM LONG ANUSVARAcLONG ANUSVARAcRTHANG LONG ANUSVARA",
    "cANUSVARA UBHAYATO MUKHAcARDHAVISARGAcROTATED ARDHAVISARGAbTONE CANDRA ABOVEbSIGN JIHVAMULIYA",
    "cUPADHMANIYAcATIKRAMAbTONE RING ABOVEcDOUBLE RING ABOVEbSIGN DOUBLE ANUSVARA ANTARGOMUKHA",
    "1D00aLATIN LETTER SMALL CAPITAL AeAEoSMALL LETTER TURNED bLETTER SMALL CAPITAL BARRED BeCeD",
    "eETHeEbSMALL LETTER TURNED OPEN EeIbLETTER SMALL CAPITAL JeKeL WITH STROKEeMeREVERSED NeO",
    "eOPEN ObSMALL LETTER SIDEWAYS OeOPEN OeO WITH STROKEdTURNED OEbLETTER SMALL CAPITAL OU",
    "bSMALL LETTER TOP HALF OqBOTTOM bLETTER SMALL CAPITAL PeREVERSED RrTURNED eTeU",
    "oSMALL LETTER SIDEWAYS eDIAERESIZED UeTURNED MbLETTER SMALL CAPITAL VeWeZeEZH",
    "cVOICED LARYNGEAL SPIRANTcAINaGREEK LETTER SMALL CAPITAL GAMMAeLAMDAePIeRHOePSI",
    "aCYRILLIC LETTER SMALL CAPITAL ELaMODIFIER LETTER CAPITAL AdAEdBdBARRED BdDdEdREVERSED EdGdH",
    "dIdJdKdLdMdNdREVERSED NdOdOUdPdRdTdUdWcSMALL AdTURNED AdALPHAdTURNED AEdBdDdEdSCHWAdOPEN E",
    "dTURNED OPEN EdGdTURNED IdKdMdENGdOdOPEN OdTOP HALF OqBOTTOM dPdTdUdSIDEWAYS UdTURNED MdVdAIN",
    "dBETAdGREEK GAMMAdDELTAdGREEK PHIdCHIaLATIN SUBSCRIPT SMALL LETTER IeReUeV",
    "aGREEK SUBSCRIPT SMALL LETTER BETAeGAMMAeRHOePHIeCHIaLATIN SMALL LETTER UE",
    "dB WITH MIDDLE TILDEqD qF qM qN qP qR fFISHHOOK AND MIDDLE TILDEdS WITH MIDDLE TILDEqT qZ ",
    "dTURNED GaMODIFIER LETTER CYRILLIC ENaLATIN SMALL LETTER INSULAR GdTH WITH STRIKETHROUGH",
    "cCAPITAL LETTER I WITH STROKEcLETTER IOTA WITH STROKEqP cCAPITAL LETTER U WITH STROKE",
    "cLETTER UPSILON WITH STROKEdB WITH PALATAL HOOKqD qF qG qK qL qM qN qP qR qS qESH qV qX qZ ",
    "qA WITH RETROFLEX qALPHA dD WITH HOOK AND TAILdE WITH RETROFLEX HOOK",
    "dOPEN E WITH RETROFLEX HOOKdREVERSED OPEN E WITH RETROFLEX HOOKdSCHWA WITH RETROFLEX HOOKqI ",
    "dOPEN O WITH RETROFLEX HOOKdESH WITH RETROFLEX HOOKqU qEZH ",
    "aMODIFIER LETTER SMALL TURNED ALPHAdCdC WITH CURLdETHdREVERSED OPEN EdFdDOTLESS J WITH STROKE",
    "dSCRIPT GdTURNED HdI WITH STROKEdIOTAdCAPITAL IeI WITH STROKEdJ WITH CROSSED-TAIL",
    "dL WITH RETROFLEX HOOKsPALATAL dCAPITAL LdM WITH HOOKdTURNED M WITH LONG LEGdN WITH LEFT HOOK",
    "sRETROFLEX dCAPITAL NdBARRED OdPHIdS WITH HOOKdESHdT WITH PALATAL HOOKdU BARdUPSILON",
    "dCAPITAL UdV WITH HOOKdTURNED VdZdZ WITH RETROFLEX HOOKfCURLdEZHdTHETA",
    "aCOMBINING DOTTED GRAVE ACCENTpACUTE bSNAKE BELOWbSUSPENSION MARKbMACRON-ACUTEbGRAVE-MACRON",
    "bMACRON-GRAVEbACUTE-MACRONbGRAVE-ACUTE-GRAVEbACUTE-GRAVE-ACUTEbLATIN SMALL LETTER R BELOW",
    "bBREVE-MACRONbMACRON-BREVEbDOUBLE CIRCUMFLEX ABOVEbOGONEK ABOVEbZIGZAG BELOWoIS bUR ABOVEoUS ",
    "bLATIN SMALL LETTER FLATTENED OPEN A ABOVEeAEeAOeAVeC CEDILLAeINSULAR DeETHeG",
    "cLETTER SMALL CAPITAL GcSMALL LETTER KeLcLETTER SMALL CAPITAL LfMcSMALL LETTER N",
    "cLETTER SMALL CAPITAL NfRcSMALL LETTER R ROTUNDAeSeLONG SeZeALPHAeBeBETAeSCHWAeF",
    "eL WITH DOUBLE MIDDLE TILDEeO WITH LIGHT CENTRALIZATION STROKEePeESH",
    "eU WITH LIGHT CENTRALIZATION STROKEeWeA WITH DIAERESISrO rU bUP TACK ABOVEbKAVYKA ABOVE RIGHT",
    "dLEFToDOT bWIDE INVERTED BRIDGE BELOWbDOT BELOW LEFTbDELETION MARK",
    "bDOUBLE INVERTED BREVE BELOWoALMOST EQUAL TO bLEFT ARROWHEAD ABOVE",
    "bRIGHT ARROWHEAD AND DOWN ARROWHEAD BELOWnLATIN CAPITAL LETTER A WITH RING oSMALL ",
    "bCAPITAL LETTER B WITH DOT ABOVEoSMALL bCAPITAL LETTER B WITH DOT BELOWoSMALL ",
    "oCAPITAL LETTER B WITH LINE oSMALL bCAPITAL LETTER C WITH CEDILLA AND ACUTEoSMALL ",
    "bCAPITAL LETTER D WITH DOT ABOVEoSMALL bCAPITAL LETTER D WITH DOT BELOWoSMALL ",
    "oCAPITAL LETTER D WITH LINE oSMALL bCAPITAL LETTER D WITH CEDILLAoSMALL ",
    "bCAPITAL LETTER D WITH CIRCUMFLEX BELOWoSMALL bCAPITAL LETTER E WITH MACRON AND GRAVEoSMALL ",
    "bCAPITAL LETTER E WITH MACRON AND ACUTEoSMALL bCAPITAL LETTER E WITH CIRCUMFLEX BELOWoSMALL ",
    "oCAPITAL LETTER E WITH TILDE oSMALL bCAPITAL LETTER E WITH CEDILLA AND BREVEoSMALL ",
    "bCAPITAL LETTER F WITH DOT ABOVEoSMALL bCAPITAL LETTER G WITH MACRONoSMALL ",
    "bCAPITAL LETTER H WITH DOT ABOVEoSMALL bCAPITAL LETTER H WITH DOT BELOWoSMALL ",
    "bCAPITAL LETTER H WITH DIAERESISoSMALL bCAPITAL LETTER H WITH CEDILLAoSMALL ",
    "bCAPITAL LETTER H WITH BREVE BELOWoSMALL oCAPITAL LETTER I WITH TILDE oSMALL ",
    "bCAPITAL LETTER I WITH DIAERESIS AND ACUTEoSMALL bCAPITAL LETTER K WITH ACUTEoSMALL ",
    "bCAPITAL LETTER K WITH DOT BELOWoSMALL oCAPITAL LETTER K WITH LINE oSMALL ",
    "oCAPITAL LETTER L WITH DOT oSMALL bCAPITAL LETTER L WITH DOT BELOW AND MACRONoSMALL ",
    "bCAPITAL LETTER L WITH LINE BELOWoSMALL oCAPITAL LETTER L WITH CIRCUMFLEX oSMALL ",
    "bCAPITAL LETTER M WITH ACUTEoSMALL bCAPITAL LETTER M WITH DOT ABOVEoSMALL ",
    "bCAPITAL LETTER M WITH DOT BELOWoSMALL bCAPITAL LETTER N WITH DOT ABOVEoSMALL ",
    "bCAPITAL LETTER N WITH DOT BELOWoSMALL oCAPITAL LETTER N WITH LINE oSMALL ",
    "oCAPITAL LETTER N WITH CIRCUMFLEX oSMALL bCAPITAL LETTER O WITH TILDE AND ACUTEoSMALL ",
    "bCAPITAL LETTER O WITH TILDE AND DIAERESISoSMALL bCAPITAL LETTER O WITH MACRON AND GRAVE",
    "oSMALL bCAPITAL LETTER O WITH MACRON AND ACUTEoSMALL bCAPITAL LETTER P WITH ACUTEoSMALL ",
    "bCAPITAL LETTER P WITH DOT ABOVEoSMALL oCAPITAL LETTER R oSMALL ",
    "bCAPITAL LETTER R WITH DOT BELOWoSMALL bCAPITAL LETTER R WITH DOT BELOW AND MACRONoSMALL ",
    "bCAPITAL LETTER R WITH LINE BELOWoSMALL bCAPITAL LETTER S WITH DOT ABOVEoSMALL ",
    "bCAPITAL LETTER S WITH DOT BELOWoSMALL bCAPITAL LETTER S WITH ACUTE AND DOT ABOVEoSMALL ",
    "oCAPITAL LETTER S WITH CARON oSMALL bCAPITAL LETTER S WITH DOT BELOW AND DOT ABOVEoSMALL ",
    "bCAPITAL LETTER T WITH DOT ABOVEoSMALL bCAPITAL LETTER T WITH DOT BELOWoSMALL ",
    "oCAPITAL LETTER T WITH LINE oSMALL oCAPITAL LETTER T WITH CIRCUMFLEX oSMALL ",
    "oCAPITAL LETTER U WITH DIAERESIS oSMALL oCAPITAL LETTER U WITH TILDE oSMALL ",
    "oCAPITAL LETTER U WITH CIRCUMFLEX oSMALL bCAPITAL LETTER U WITH TILDE AND ACUTEoSMALL ",
    "bCAPITAL LETTER U WITH MACRON AND DIAERESISoSMALL bCAPITAL LETTER V WITH TILDEoSMALL ",
    "bCAPITAL LETTER V WITH DOT BELOWoSMALL bCAPITAL LETTER W WITH GRAVEoSMALL ",
    "bCAPITAL LETTER W WITH ACUTEoSMALL bCAPITAL LETTER W WITH DIAERESISoSMALL ",
    "bCAPITAL LETTER W WITH DOT ABOVEoSMALL bCAPITAL LETTER W WITH DOT BELOWoSMALL ",
    "bCAPITAL LETTER X WITH DOT ABOVEoSMALL bCAPITAL LETTER X WITH DIAERESISoSMALL ",
    "bCAPITAL LETTER Y WITH DOT ABOVEoSMALL bCAPITAL LETTER Z WITH CIRCUMFLEXoSMALL ",
    "bCAPITAL LETTER Z WITH DOT BELOWoSMALL oCAPITAL LETTER Z WITH LINE oSMALL qH ",
    "dT WITH DIAERESISdW WITH RING ABOVEqY dA WITH RIGHT HALF RINGdLONG S WITH DOT ABOVE",
    "gDIAGONAL STROKEtHIGH bCAPITAL LETTER SHARP SbSMALL LETTER DELTA",
    "bCAPITAL LETTER A WITH DOT BELOWoSMALL bCAPITAL LETTER A WITH HOOK ABOVEoSMALL ",
    "bCAPITAL LETTER A WITH CIRCUMFLEX AND ACUTEoSMALL bCAPITAL LETTER A WITH CIRCUMFLEX AND GRAVE",
    "oSMALL bCAPITAL LETTER A WITH CIRCUMFLEX AND HOOK ABOVEoSMALL ",
    "bCAPITAL LETTER A WITH CIRCUMFLEX AND TILDEoSMALL ",
    "bCAPITAL LETTER A WITH CIRCUMFLEX AND DOT BELOWoSMALL bCAPITAL LETTER A WITH BREVE AND ACUTE",
    "oSMALL bCAPITAL LETTER A WITH BREVE AND GRAVEoSMALL ",
    "bCAPITAL LETTER A WITH BREVE AND HOOK ABOVEoSMALL bCAPITAL LETTER A WITH BREVE AND TILDE",
    "oSMALL bCAPITAL LETTER A WITH BREVE AND DOT BELOWoSMALL bCAPITAL LETTER E WITH DOT BELOW",
    "oSMALL bCAPITAL LETTER E WITH HOOK ABOVEoSMALL bCAPITAL LETTER E WITH TILDEoSMALL ",
    "bCAPITAL LETTER E WITH CIRCUMFLEX AND ACUTEoSMALL bCAPITAL LETTER E WITH CIRCUMFLEX AND GRAVE",
    "oSMALL bCAPITAL LETTER E WITH CIRCUMFLEX AND HOOK ABOVEoSMALL ",
    "bCAPITAL LETTER E WITH CIRCUMFLEX AND TILDEoSMALL ",
    "bCAPITAL LETTER E WITH CIRCUMFLEX AND DOT BELOWoSMALL bCAPITAL LETTER I WITH HOOK ABOVE",
    "oSMALL bCAPITAL LETTER I WITH DOT BELOWoSMALL oCAPITAL LETTER O oSMALL ",
    "bCAPITAL LETTER O WITH HOOK ABOVEoSMALL bCAPITAL LETTER O WITH CIRCUMFLEX AND ACUTEoSMALL ",
    "bCAPITAL LETTER O WITH CIRCUMFLEX AND GRAVEoSMALL ",
    "bCAPITAL LETTER O WITH CIRCUMFLEX AND HOOK ABOVEoSMALL ",
    "bCAPITAL LETTER O WITH CIRCUMFLEX AND TILDEoSMALL ",
    "bCAPITAL LETTER O WITH CIRCUMFLEX AND DOT BELOWoSMALL bCAPITAL LETTER O WITH HORN AND ACUTE",
    "oSMALL bCAPITAL LETTER O WITH HORN AND GRAVEoSMALL bCAPITAL LETTER O WITH HORN AND HOOK ABOVE",
    "oSMALL bCAPITAL LETTER O WITH HORN AND TILDEoSMALL bCAPITAL LETTER O WITH HORN AND DOT BELOW",
    "oSMALL bCAPITAL LETTER U WITH DOT BELOWoSMALL bCAPITAL LETTER U WITH HOOK ABOVEoSMALL ",
    "bCAPITAL LETTER U WITH HORN AND ACUTEoSMALL bCAPITAL LETTER U WITH HORN AND GRAVEoSMALL ",
    "bCAPITAL LETTER U WITH HORN AND HOOK ABOVEoSMALL bCAPITAL LETTER U WITH HORN AND TILDEoSMALL ",
    "bCAPITAL LETTER U WITH HORN AND DOT BELOWoSMALL bCAPITAL LETTER Y WITH GRAVEoSMALL ",
    "bCAPITAL LETTER Y WITH DOT BELOWoSMALL bCAPITAL LETTER Y WITH HOOK ABOVEoSMALL ",
    "bCAPITAL LETTER Y WITH TILDEoSMALL bCAPITAL LETTER MIDDLE-WELSH LLoSMALL ",
    "bCAPITAL LETTER MIDDLE-WELSH VoSMALL bCAPITAL LETTER Y WITH LOOPoSMALL ",
    "aGREEK SMALL LETTER ALPHA WITH PSILIfDASIAfPSILI AND VARIAsDASIA fPSILI AND OXIAsDASIA ",
    "fPSILI AND PERISPOMENIsDASIA bCAPITAL LETTER ALPHA WITH PSILIfDASIAfPSILI AND VARIAsDASIA ",
    "fPSILI AND OXIAsDASIA fPSILI AND PERISPOMENIsDASIA bSMALL LETTER EPSILON WITH PSILIfDASIA",
    "fPSILI AND VARIAsDASIA fPSILI AND OXIAsDASIA ",
    "1F18bCAPITAL LETTER EPSILON WITH PSILIfDASIAfPSILI AND VARIAsDASIA fPSILI AND OXIAsDASIA ",
    "1F20bSMALL LETTER ETA WITH PSILIfDASIAfPSILI AND VARIAsDASIA fPSILI AND OXIAsDASIA ",
    "fPSILI AND PERISPOMENIsDASIA bCAPITAL LETTER ETA WITH PSILIfDASIAfPSILI AND VARIAsDASIA ",
    "fPSILI AND OXIAsDASIA fPSILI AND PERISPOMENIsDASIA bSMALL LETTER IOTA WITH PSILIfDASIA",
    "fPSILI AND VARIAsDASIA fPSILI AND OXIAsDASIA fPSILI AND PERISPOMENIsDASIA ",
    "bCAPITAL LETTER IOTA WITH PSILIfDASIAfPSILI AND VARIAsDASIA fPSILI AND OXIAsDASIA ",
    "fPSILI AND PERISPOMENIsDASIA bSMALL LETTER OMICRON WITH PSILIfDASIAfPSILI AND VARIAsDASIA ",
    "fPSILI AND OXIAsDASIA ",
    "1F48bCAPITAL LETTER OMICRON WITH PSILIfDASIAfPSILI AND VARIAsDASIA fPSILI AND OXIAsDASIA ",
    "1F50bSMALL LETTER UPSILON WITH PSILIfDASIAfPSILI AND VARIAsDASIA fPSILI AND OXIAsDASIA ",
    "fPSILI AND PERISPOMENIsDASIA ", "1F59bCAPITAL LETTER UPSILON WITH DASIA",
    "1F5BfDASIA AND VARIA", "1F5DhOXIA",
    "1F5FhPERISPOMENIbSMALL LETTER OMEGA WITH PSILIfDASIAfPSILI AND VARIAsDASIA fPSILI AND OXIA",
    "sDASIA fPSILI AND PERISPOMENIsDASIA bCAPITAL LETTER OMEGA WITH PSILIfDASIAfPSILI AND VARIA",
    "sDASIA fPSILI AND OXIAsDASIA fPSILI AND PERISPOMENIsDASIA bSMALL LETTER ALPHA WITH VARIAfOXIA",
    "dEPSILON WITH VARIAfOXIAdETA WITH VARIAfOXIAdIOTA WITH VARIAfOXIAdOMICRON WITH VARIAfOXIA",
    "dUPSILON WITH VARIAfOXIAdOMEGA WITH VARIAfOXIA",
    "1F80dALPHA WITH PSILI AND YPOGEGRAMMENIsDASIA fPSILI AND VARIA AND YPOGEGRAMMENIsDASIA ",
    "sPSILI AND OXIA sDASIA sPSILI AND PERISPOMENI sDASIA ",
    "bCAPITAL LETTER ALPHA WITH PSILI AND PROSGEGRAMMENIsDASIA fPSILI AND VARIA AND PROSGEGRAMMENI",
    "sDASIA sPSILI AND OXIA sDASIA sPSILI AND PERISPOMENI sDASIA ",
    "bSMALL LETTER ETA WITH PSILI AND YPOGEGRAMMENIsDASIA fPSILI AND VARIA AND YPOGEGRAMMENI",
    "sDASIA sPSILI AND OXIA sDASIA sPSILI AND PERISPOMENI sDASIA ",
    "bCAPITAL LETTER ETA WITH PSILI AND PROSGEGRAMMENIsDASIA fPSILI AND VARIA AND PROSGEGRAMMENI",
    "sDASIA sPSILI AND OXIA sDASIA sPSILI AND PERISPOMENI sDASIA ",
    "bSMALL LETTER OMEGA WITH PSILI AND YPOGEGRAMMENIsDASIA fPSILI AND VARIA AND YPOGEGRAMMENI",
    "sDASIA sPSILI AND OXIA sDASIA sPSILI AND PERISPOMENI sDASIA ",
    "bCAPITAL LETTER OMEGA WITH PSILI AND PROSGEGRAMMENIsDASIA fPSILI AND VARIA AND PROSGEGRAMMENI",
    "sDASIA sPSILI AND OXIA sDASIA sPSILI AND PERISPOMENI sDASIA bSMALL LETTER ALPHA WITH VRACHY",
    "fMACRONfVARIA AND YPOGEGRAMMENIfYPOGEGRAMMENIfOXIA AND YPOGEGRAMMENI",
    "1FB6fPERISPOMENIfPERISPOMENI AND YPOGEGRAMMENIbCAPITAL LETTER ALPHA WITH VRACHYfMACRONfVARIA",
    "fOXIAfPROSGEGRAMMENIbKORONISbPROSGEGRAMMENIbPSILIbPERISPOMENIbDIALYTIKA AND PERISPOMENI",
    "bSMALL LETTER ETA WITH VARIA AND YPOGEGRAMMENIfYPOGEGRAMMENIfOXIA AND YPOGEGRAMMENI",
    "1FC6fPERISPOMENIfPERISPOMENI AND YPOGEGRAMMENIbCAPITAL LETTER EPSILON WITH VARIAfOXIA",
    "dETA WITH VARIAfOXIAfPROSGEGRAMMENIbPSILI AND VARIAdOXIAdPERISPOMENI",
    "bSMALL LETTER IOTA WITH VRACHYfMACRONfDIALYTIKA AND VARIAhOXIA",
    "1FD6fPERISPOMENIfDIALYTIKA AND PERISPOMENIbCAPITAL LETTER IOTA WITH VRACHYfMACRONfVARIAfOXIA",
    "1FDDbDASIA AND VARIAdOXIAdPERISPOMENIbSMALL LETTER UPSILON WITH VRACHYfMACRON",
    "fDIALYTIKA AND VARIAhOXIAdRHO WITH PSILIfDASIAdUPSILON WITH PERISPOMENI",
    "fDIALYTIKA AND PERISPOMENIbCAPITAL LETTER UPSILON WITH VRACHYfMACRONfVARIAfOXIA",
    "dRHO WITH DASIAbDIALYTIKA AND VARIAdOXIAbVARIA",
    "1FF2bSMALL LETTER OMEGA WITH VARIA AND YPOGEGRAMMENIfYPOGEGRAMMENIfOXIA AND YPOGEGRAMMENI",
    "1FF6fPERISPOMENIfPERISPOMENI AND YPOGEGRAMMENIbCAPITAL LETTER OMICRON WITH VARIAfOXIA",
    "dOMEGA WITH VARIAfOXIAfPROSGEGRAMMENIbOXIAbDASIA"]

end EngineBindings.Text.CharName
