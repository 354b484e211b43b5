/-! Names of signs and of pictures.

The lines are written as `CharName.entries` reads them, in the order of the code points.
There are marks between words, arrows, signs of mathematics, frames, and the parts of ideographs;
then notes, gestures, mathematical letters, tiles, cards and faces. -/
namespace EngineBindings.Text.CharName

/-- Names from the code point 2000 on. -/
def signs : List String := [
    "2000aEN QUADnEM aEN SPACEnEM aTHREE-PER-EM SPACEnFOUR-nSIX-aFIGURE SPACEnPUNCTUATION nTHIN ",
    "nHAIR aZERO WIDTH SPACEcNON-JOINERcJOINERaLEFT-TO-RIGHT MARKnRIGHT-TO-LEFT aHYPHEN",
    "aNON-BREAKING HYPHENaFIGURE DASHnEN nEM aHORIZONTAL BARaDOUBLE VERTICAL LINEoLOW ",
    "aLEFT SINGLE QUOTATION MARKnRIGHT aSINGLE LOW-9 QUOTATION MARKbHIGH-REVERSED-9 QUOTATION MARK",
    "aLEFT DOUBLE QUOTATION MARKnRIGHT aDOUBLE LOW-9 QUOTATION MARKbHIGH-REVERSED-9 QUOTATION MARK",
    "aDAGGERaDOUBLE DAGGERaBULLETaTRIANGULAR BULLETaONE DOT LEADERnTWO aHORIZONTAL ELLIPSIS",
    "aHYPHENATION POINTaLINE SEPARATORnPARAGRAPH aLEFT-TO-RIGHT EMBEDDINGnRIGHT-TO-LEFT ",
    "aPOP DIRECTIONAL FORMATTINGaLEFT-TO-RIGHT OVERRIDEnRIGHT-TO-LEFT aNARROW NO-BREAK SPACE",
    "aPER MILLE SIGNbTEN THOUSAND SIGNaPRIMEaDOUBLE PRIMEnTRIPLE nREVERSED bDOUBLE PRIMEoTRIPLE ",
    "aCARETaSINGLE LEFT-POINTING ANGLE QUOTATION MARKoRIGHT-aREFERENCE MARK",
    "aDOUBLE EXCLAMATION MARKaINTERROBANGaOVERLINEaUNDERTIEaCHARACTER TIEaCARET INSERTION POINT",
    "aASTERISMaHYPHEN BULLETaFRACTION SLASHaLEFT SQUARE BRACKET WITH QUILLnRIGHT ",
    "aDOUBLE QUESTION MARKnQUESTION EXCLAMATION nEXCLAMATION QUESTION aTIRONIAN SIGN ET",
    "aREVERSED PILCROW SIGNaBLACK LEFTWARDS BULLEToRIGHTWARDS aLOW ASTERISKaREVERSED SEMICOLON",
    "aCLOSE UPaTWO ASTERISKS ALIGNED VERTICALLYaCOMMERCIAL MINUS SIGNaSWUNG DASHaINVERTED UNDERTIE",
    "aFLOWER PUNCTUATION MARKaTHREE DOT PUNCTUATIONaQUADRUPLE PRIMEaFOUR DOT PUNCTUATIONnFIVE ",
    "nTWO aFOUR DOT MARKaDOTTED CROSSaTRICOLONaVERTICAL FOUR DOTSaMEDIUM MATHEMATICAL SPACE",
    "aWORD JOINERaFUNCTION APPLICATIONaINVISIBLE TIMESbSEPARATORbPLUS",
    "2066aLEFT-TO-RIGHT ISOLATEnRIGHT-TO-LEFT aFIRST STRONG ISOLATEnPOP DIRECTIONAL ",
    "aINHIBIT SYMMETRIC SWAPPINGnACTIVATE aINHIBIT ARABIC FORM SHAPINGnACTIVATE ",
    "aNATIONAL DIGIT SHAPESnNOMINAL aSUPERSCRIPT ZERObLATIN SMALL LETTER I",
    "2074bFOURbFIVEbSIXbSEVENbEIGHTbNINEbPLUS SIGNbMINUSbEQUALS SIGNbLEFT PARENTHESISoRIGHT ",
    "bLATIN SMALL LETTER NaSUBSCRIPT ZERObONEbTWObTHREEbFOURbFIVEbSIXbSEVENbEIGHTbNINEbPLUS SIGN",
    "bMINUSbEQUALS SIGNbLEFT PARENTHESISoRIGHT ",
    "2090aLATIN SUBSCRIPT SMALL LETTER AeEeOeXeSCHWAeHeKeLeMeNePeSeT",
    "20A0aEURO-CURRENCY SIGNaCOLON SIGNnCRUZEIRO aFRENCH FRANC SIGNaLIRA SIGNnMILL nNAIRA nPESETA ",
    "nRUPEE nWON aNEW SHEQEL SIGNaDONG SIGNnEURO nKIP nTUGRIK nDRACHMA aGERMAN PENNY SIGN",
    "aPESO SIGNnGUARANI nAUSTRAL nHRYVNIA nCEDI aLIVRE TOURNOIS SIGNaSPESMILO SIGNnTENGE ",
    "aINDIAN RUPEE SIGNnTURKISH LIRA nNORDIC MARK aMANAT SIGNnRUBLE nLARI nBITCOIN nSOM ",
    "20D0aCOMBINING LEFT HARPOON ABOVEoRIGHT bLONG VERTICAL LINE OVERLAYoSHORT ",
    "bANTICLOCKWISE ARROW ABOVEoCLOCKWISE oLEFT oRIGHT bRING OVERLAYbCLOCKWISE RING OVERLAY",
    "oANTICLOCKWISE bTHREE DOTS ABOVEoFOUR bENCLOSING CIRCLEcSQUAREcDIAMONDcCIRCLE BACKSLASH",
    "bLEFT RIGHT ARROW ABOVEbENCLOSING SCREENcKEYCAPcUPWARD POINTING TRIANGLE",
    "bREVERSE SOLIDUS OVERLAYbDOUBLE VERTICAL STROKE OVERLAYbANNUITY SYMBOLbTRIPLE UNDERDOT",
    "bWIDE BRIDGE ABOVEbLEFTWARDS ARROW OVERLAYbLONG DOUBLE SOLIDUS OVERLAY",
    "bRIGHTWARDS HARPOON WITH BARB DOWNWARDSoLEFTWARDS bLEFT ARROW BELOWoRIGHT bASTERISK ABOVE",
    "2100aACCOUNT OFaADDRESSED TO THE SUBJECTaDOUBLE-STRUCK CAPITAL CaDEGREE CELSIUS",
    "aCENTRE LINE SYMBOLaCARE OFaCADA UNAaEULER CONSTANTaSCRUPLEaDEGREE FAHRENHEITaSCRIPT SMALL G",
    "bCAPITAL HaBLACK-LETTER CAPITAL HnDOUBLE-STRUCK aPLANCK CONSTANTbCONSTANT OVER TWO PI",
    "aSCRIPT CAPITAL IaBLACK-LETTER CAPITAL IaSCRIPT CAPITAL LoSMALL aL B BAR SYMBOL",
    "aDOUBLE-STRUCK CAPITAL NaNUMERO SIGNaSOUND RECORDING COPYRIGHTaSCRIPT CAPITAL P",
    "aDOUBLE-STRUCK CAPITAL PdQaSCRIPT CAPITAL RaBLACK-LETTER CAPITAL RnDOUBLE-STRUCK ",
    "aPRESCRIPTION TAKEaRESPONSEaSERVICE MARKaTELEPHONE SIGNaTRADE MARK SIGNaVERSICLE",
    "aDOUBLE-STRUCK CAPITAL ZaOUNCE SIGNnOHM aINVERTED OHM SIGNaBLACK-LETTER CAPITAL Z",
    "aTURNED GREEK SMALL LETTER IOTAaKELVIN SIGNnANGSTROM aSCRIPT CAPITAL BaBLACK-LETTER CAPITAL C",
    "aESTIMATED SYMBOLaSCRIPT SMALL EoCAPITAL cFnTURNED aSCRIPT CAPITAL MbSMALL OaALEF SYMBOLnBET ",
    "nGIMEL nDALET aINFORMATION SOURCEaROTATED CAPITAL QaFACSIMILE SIGNaDOUBLE-STRUCK SMALL PI",
    "dGAMMApCAPITAL dPIcN-ARY SUMMATIONaTURNED SANS-SERIF CAPITAL GeLnREVERSED ",
    "aTURNED SANS-SERIF CAPITAL YaDOUBLE-STRUCK ITALIC CAPITAL DqSMALL eEeIeJaPROPERTY LINE",
    "aTURNED AMPERSANDaPER SIGNaAKTIESELSKABaTURNED SMALL FaSYMBOL FOR SAMARITAN SOURCE",
    "aVULGAR FRACTION ONE SEVENTHdNINTHdTENTHdTHIRDcTWO THIRDScONE FIFTHcTWO FIFTHSpTHREE pFOUR ",
    "cONE SIXTHcFIVE SIXTHScONE EIGHTHcTHREE EIGHTHSpFIVE pSEVEN aFRACTION NUMERATOR ONE",
    "nROMAN NUMERAL cTWOcTHREEcFOURcFIVEcSIXcSEVENcEIGHTcNINEcTENcELEVENcTWELVEcFIFTYcONE HUNDRED",
    "pFIVE cONE THOUSANDaSMALL ROMAN NUMERAL ONEdTWOdTHREEdFOURdFIVEdSIXdSEVENdEIGHTdNINEdTEN",
    "dELEVENdTWELVEdFIFTYdONE HUNDREDqFIVE dONE THOUSANDaROMAN NUMERAL ONE THOUSAND C D",
    "cFIVE THOUSANDpTEN cREVERSED ONE HUNDREDaLATIN SMALL LETTER REVERSED C",
    "aROMAN NUMERAL SIX LATE FORMpFIFTY EARLY dTHOUSANDcONE HUNDRED THOUSAND",
    "aVULGAR FRACTION ZERO THIRDSaTURNED DIGIT TWOcTHREE",
    "2190aLEFTWARDS ARROWnUPWARDS nRIGHTWARDS nDOWNWARDS aLEFT RIGHT ARROWnUP DOWN nNORTH WEST ",
    "oEAST nSOUTH oWEST aLEFTWARDS ARROW WITH STROKEnRIGHTWARDS aLEFTWARDS WAVE ARROWnRIGHTWARDS ",
    "aLEFTWARDS TWO HEADED ARROWnUPWARDS nRIGHTWARDS nDOWNWARDS aLEFTWARDS ARROW WITH TAIL",
    "nRIGHTWARDS aLEFTWARDS ARROW FROM BARnUPWARDS nRIGHTWARDS nDOWNWARDS aUP DOWN ARROW WITH BASE",
    "aLEFTWARDS ARROW WITH HOOKnRIGHTWARDS aLEFTWARDS ARROW WITH LOOPnRIGHTWARDS ",
    "aLEFT RIGHT WAVE ARROWcARROW WITH STROKEaDOWNWARDS ZIGZAG ARROW",
    "aUPWARDS ARROW WITH TIP LEFTWARDSeRIGHTWARDSaDOWNWARDS ARROW WITH TIP LEFTWARDSeRIGHTWARDS",
    "aRIGHTWARDS ARROW WITH CORNER DOWNWARDSaDOWNWARDS ARROW WITH CORNER LEFTWARDS",
    "aANTICLOCKWISE TOP SEMICIRCLE ARROWnCLOCKWISE aNORTH WEST ARROW TO LONG BAR",
    "aLEFTWARDS ARROW TO BAR OVER RIGHTWARDS ARROW TO BARaANTICLOCKWISE OPEN CIRCLE ARROW",
    "nCLOCKWISE aLEFTWARDS HARPOON WITH BARB UPWARDSeDOWNWARDS",
    "aUPWARDS HARPOON WITH BARB RIGHTWARDSeLEFTWARDSaRIGHTWARDS HARPOON WITH BARB UPWARDS",
    "eDOWNWARDSaDOWNWARDS HARPOON WITH BARB RIGHTWARDSeLEFTWARDS",
    "aRIGHTWARDS ARROW OVER LEFTWARDS ARROWaUPWARDS ARROW LEFTWARDS OF DOWNWARDS ARROW",
    "aLEFTWARDS ARROW OVER RIGHTWARDS ARROWbPAIRED ARROWSnUPWARDS nRIGHTWARDS nDOWNWARDS ",
    "aLEFTWARDS HARPOON OVER RIGHTWARDS HARPOONnRIGHTWARDS HARPOON OVER LEFTWARDS ",
    "aLEFTWARDS DOUBLE ARROW WITH STROKEaLEFT RIGHT DOUBLE ARROW WITH STROKE",
    "aRIGHTWARDS DOUBLE ARROW WITH STROKEaLEFTWARDS DOUBLE ARROWnUPWARDS nRIGHTWARDS nDOWNWARDS ",
    "aLEFT RIGHT DOUBLE ARROWnUP DOWN nNORTH WEST oEAST nSOUTH oWEST aLEFTWARDS TRIPLE ARROW",
    "nRIGHTWARDS nLEFTWARDS SQUIGGLE nRIGHTWARDS aUPWARDS ARROW WITH DOUBLE STROKEnDOWNWARDS ",
    "aLEFTWARDS DASHED ARROWnUPWARDS nRIGHTWARDS nDOWNWARDS aLEFTWARDS ARROW TO BARnRIGHTWARDS ",
    "aLEFTWARDS WHITE ARROWnUPWARDS nRIGHTWARDS nDOWNWARDS aUPWARDS WHITE ARROW FROM BAR",
    "dON PEDESTALePEDESTAL WITH HORIZONTAL BARtVERTICAL cDOUBLE ARROWdARROW ON PEDESTAL",
    "aRIGHTWARDS WHITE ARROW FROM WALLaNORTH WEST ARROW TO CORNERnSOUTH EAST aUP DOWN WHITE ARROW",
    "aRIGHT ARROW WITH SMALL CIRCLEaDOWNWARDS ARROW LEFTWARDS OF UPWARDS ARROW",
    "aTHREE RIGHTWARDS ARROWSaLEFTWARDS ARROW WITH VERTICAL STROKEnRIGHTWARDS ",
    "aLEFT RIGHT ARROW WITH VERTICAL STROKEnLEFTWARDS ARROW WITH DOUBLE nRIGHTWARDS ",
    "aLEFT RIGHT ARROW WITH DOUBLE VERTICAL STROKEaLEFTWARDS OPEN-HEADED ARROWnRIGHTWARDS ",
    "aLEFT RIGHT OPEN-HEADED ARROWaFOR ALLaCOMPLEMENTaPARTIAL DIFFERENTIALaTHERE EXISTS",
    "bDOES NOT EXISTaEMPTY SETaINCREMENTaNABLAaELEMENT OFaNOT AN ELEMENT OFaSMALL ELEMENT OF",
    "aCONTAINS AS MEMBERaDOES NOT CONTAIN AS MEMBERaSMALL CONTAINS AS MEMBERaEND OF PROOF",
    "aN-ARY PRODUCTcCOPRODUCTcSUMMATIONaMINUS SIGNaMINUS-OR-PLUS SIGNaDOT PLUSaDIVISION SLASH",
    "aSET MINUSaASTERISK OPERATORnRING nBULLET aSQUARE ROOTnCUBE nFOURTH aPROPORTIONAL TOaINFINITY",
    "aRIGHT ANGLEaANGLEaMEASURED ANGLEnSPHERICAL aDIVIDESaDOES NOT DIVIDEaPARALLEL TO",
    "aNOT PARALLEL TOaLOGICAL ANDbORaINTERSECTIONaUNIONaINTEGRALaDOUBLE INTEGRALnTRIPLE nCONTOUR ",
    "nSURFACE nVOLUME nCLOCKWISE bCONTOUR INTEGRALnANTICLOCKWISE aTHEREFOREaBECAUSEaRATIO",
    "aPROPORTIONaDOT MINUSaEXCESSaGEOMETRIC PROPORTIONaHOMOTHETICaTILDE OPERATORaREVERSED TILDE",
    "aINVERTED LAZY SaSINE WAVEaWREATH PRODUCTaNOT TILDEnMINUS aASYMPTOTICALLY EQUAL TO",
    "aNOT ASYMPTOTICALLY EQUAL TOaAPPROXIMATELY EQUAL TObBUT NOT ACTUALLY EQUAL TO",
    "nNEITHER APPROXIMATELY NOR aALMOST EQUAL TOaNOT ALMOST EQUAL TOaALMOST EQUAL OR EQUAL TO",
    "aTRIPLE TILDEaALL EQUAL TOaEQUIVALENT TOaGEOMETRICALLY EQUIVALENT TOaDIFFERENCE BETWEEN",
    "aAPPROACHES THE LIMITaGEOMETRICALLY EQUAL TOaAPPROXIMATELY EQUAL TO OR THE IMAGE OF",
    "aIMAGE OF OR APPROXIMATELY EQUAL TOaCOLON EQUALSaEQUALS COLONaRING IN EQUAL TObEQUAL TO",
    "aCORRESPONDS TOaESTIMATESaEQUIANGULAR TOaSTAR EQUALSaDELTA EQUAL TOaEQUAL TO BY DEFINITION",
    "aMEASURED BYaQUESTIONED EQUAL TOnNOT aIDENTICAL TOaNOT IDENTICAL TOnSTRICTLY EQUIVALENT ",
    "aLESS-THAN OR EQUAL TOnGREATER-nLESS-THAN OVER nGREATER-aLESS-THAN BUT NOT EQUAL TOnGREATER-",
    "aMUCH LESS-THANoGREATER-aBETWEENaNOT EQUIVALENT TObLESS-THANoGREATER-",
    "aNEITHER LESS-THAN NOR EQUAL TOoGREATER-aLESS-THAN OR EQUIVALENT TOnGREATER-",
    "aNEITHER LESS-THAN NOR EQUIVALENT TOoGREATER-aLESS-THAN OR GREATER-THANnGREATER-THAN OR LESS-",
    "aNEITHER LESS-THAN NOR GREATER-THANoGREATER-THAN NOR LESS-aPRECEDESaSUCCEEDS",
    "aPRECEDES OR EQUAL TOnSUCCEEDS nPRECEDES OR EQUIVALENT nSUCCEEDS aDOES NOT PRECEDEcSUCCEED",
    "aSUBSET OFnSUPERSET aNOT A SUBSET OFpSUPERSET aSUBSET OF OR EQUAL TOnSUPERSET ",
    "aNEITHER A SUBSET OF NOR EQUAL TOpSUPERSET aSUBSET OF WITH NOT EQUAL TOnSUPERSET aMULTISET",
    "aMULTISET MULTIPLICATIONbUNIONaSQUARE IMAGE OFoORIGINAL bIMAGE OF OR EQUAL TOoORIGINAL bCAP",
    "bCUPaCIRCLED PLUSbMINUSbTIMESbDIVISION SLASHbDOT OPERATORoRING oASTERISK bEQUALSbDASH",
    "aSQUARED PLUSbMINUSbTIMESbDOT OPERATORaRIGHT TACKnLEFT nDOWN nUP aASSERTIONaMODELSaTRUE",
    "aFORCESaTRIPLE VERTICAL BAR RIGHT TURNSTILEaDOUBLE VERTICAL BAR DOUBLE RIGHT TURNSTILE",
    "aDOES NOT PROVEaNOT TRUEaDOES NOT FORCEaNEGATED DOUBLE VERTICAL BAR DOUBLE RIGHT TURNSTILE",
    "aPRECEDES UNDER RELATIONnSUCCEEDS aNORMAL SUBGROUP OFaCONTAINS AS NORMAL SUBGROUP",
    "aNORMAL SUBGROUP OF OR EQUAL TOaCONTAINS AS NORMAL SUBGROUP OR EQUAL TOaORIGINAL OFnIMAGE ",
    "aMULTIMAPaHERMITIAN CONJUGATE MATRIXaINTERCALATEaXORaNANDaNORaRIGHT ANGLE WITH ARCbTRIANGLE",
    "aN-ARY LOGICAL ANDdORcINTERSECTIONcUNIONaDIAMOND OPERATORnDOT nSTAR aDIVISION TIMESaBOWTIE",
    "aLEFT NORMAL FACTOR SEMIDIRECT PRODUCTnRIGHT aLEFT SEMIDIRECT PRODUCTnRIGHT ",
    "aREVERSED TILDE EQUALSaCURLY LOGICAL ORcANDaDOUBLE SUBSETbSUPERSETbINTERSECTIONbUNION",
    "aPITCHFORKaEQUAL AND PARALLEL TOaLESS-THAN WITH DOTnGREATER-aVERY MUCH LESS-THANpGREATER-",
    "aLESS-THAN EQUAL TO OR GREATER-THANnGREATER-THAN EQUAL TO OR LESS-aEQUAL TO OR LESS-THAN",
    "qGREATER-dPRECEDESdSUCCEEDSaDOES NOT PRECEDE OR EQUALpSUCCEED ",
    "aNOT SQUARE IMAGE OF OR EQUAL TOpORIGINAL nSQUARE IMAGE OF OR NOT oORIGINAL ",
    "aLESS-THAN BUT NOT EQUIVALENT TOnGREATER-aPRECEDES BUT NOT EQUIVALENT TOnSUCCEEDS ",
    "aNOT NORMAL SUBGROUP OFaDOES NOT CONTAIN AS NORMAL SUBGROUP",
    "aNOT NORMAL SUBGROUP OF OR EQUAL TOaDOES NOT CONTAIN AS NORMAL SUBGROUP OR EQUAL",
    "aVERTICAL ELLIPSISaMIDLINE HORIZONTAL ELLIPSISaUP RIGHT DIAGONAL ELLIPSISnDOWN ",
    "aELEMENT OF WITH LONG HORIZONTAL STROKEdVERTICAL BAR AT END OF HORIZONTAL STROKE",
    "aSMALL ELEMENT OF WITH VERTICAL BAR AT END OF HORIZONTAL STROKEaELEMENT OF WITH DOT ABOVE",
    "dOVERBARaSMALL ELEMENT OF WITH OVERBARaELEMENT OF WITH UNDERBARdTWO HORIZONTAL STROKES",
    "aCONTAINS WITH LONG HORIZONTAL STROKEcVERTICAL BAR AT END OF HORIZONTAL STROKE",
    "aSMALL CONTAINS WITH VERTICAL BAR AT END OF HORIZONTAL STROKEaCONTAINS WITH OVERBAR",
    "aSMALL CONTAINS WITH OVERBARaZ NOTATION BAG MEMBERSHIPaDIAMETER SIGNaELECTRIC ARROWaHOUSE",
    "aUP ARROWHEADnDOWN aPROJECTIVEaPERSPECTIVEaWAVY LINEaLEFT CEILINGnRIGHT aLEFT FLOORnRIGHT ",
    "aBOTTOM RIGHT CROPoLEFT nTOP RIGHT oLEFT aREVERSED NOT SIGNaSQUARE LOZENGEaARCaSEGMENTaSECTOR",
    "aTELEPHONE RECORDERaPOSITION INDICATORaVIEWDATA SQUAREaPLACE OF INTEREST SIGNaTURNED NOT SIGN",
    "aWATCHaHOURGLASSaTOP LEFT CORNERoRIGHT nBOTTOM LEFT oRIGHT aTOP HALF INTEGRALnBOTTOM aFROWN",
    "aSMILEaUP ARROWHEAD BETWEEN TWO HORIZONTAL BARSaOPTION KEYaERASE TO THE RIGHT",
    "aX IN A RECTANGLE BOXaKEYBOARDaLEFT-POINTING ANGLE BRACKETnRIGHT-aERASE TO THE LEFT",
    "aBENZENE RINGaCYLINDRICITYaALL AROUND-PROFILEaSYMMETRYaTOTAL RUNOUTaDIMENSION ORIGIN",
    "aCONICAL TAPERaSLOPEaCOUNTERBOREaCOUNTERSINKaAPL FUNCTIONAL SYMBOL I-BEAMdSQUISH QUAD",
    "dQUAD EQUALeDIVIDEeDIAMONDeJOTeCIRCLEdCIRCLE STILEeJOTdSLASH BARqBACKSLASH dQUAD SLASH",
    "eBACKSLASHeLESS-THANrGREATER-dLEFTWARDS VANEqRIGHTWARDS dQUAD LEFTWARDS ARROWrRIGHTWARDS ",
    "dCIRCLE BACKSLASHdDOWN TACK UNDERBARdDELTA STILEdQUAD DOWN CARETeDELTAdDOWN TACK JOT",
    "dUPWARDS VANEdQUAD UPWARDS ARROWdUP TACK OVERBARdDEL STILEdQUAD UP CARETeDELdUP TACK JOT",
    "dDOWNWARDS VANEdQUAD DOWNWARDS ARROWdQUOTE UNDERBARqDELTA qDIAMOND qJOT qCIRCLE dUP SHOE JOT",
    "dQUOTE QUADdCIRCLE STARdQUAD COLONdUP TACK DIAERESISdDEL DIAERESISqSTAR qJOT qCIRCLE ",
    "dDOWN SHOE STILEqLEFT dTILDE DIAERESISdGREATER-THAN DIAERESISdCOMMA BARdDEL TILDEdZILDE",
    "dSTILE TILDEdSEMICOLON UNDERBARdQUAD NOT EQUALeQUESTIONdDOWN CARET TILDEqUP dIOTAdRHOdOMEGA",
    "dALPHA UNDERBARqEPSILON qIOTA qOMEGA dALPHAaNOT CHECK MARK",
    "aRIGHT ANGLE WITH DOWNWARDS ZIGZAG ARROWaSHOULDERED OPEN BOXaBELL SYMBOL",
    "aVERTICAL LINE WITH MIDDLE DOTaINSERTION SYMBOLaCONTINUOUS UNDERLINE SYMBOLnDISCONTINUOUS ",
    "aEMPHASIS SYMBOLnCOMPOSITION aWHITE SQUARE WITH CENTRE VERTICAL LINEaENTER SYMBOL",
    "aALTERNATIVE KEY SYMBOLaHELM SYMBOLaCIRCLED HORIZONTAL BAR WITH NOTCHbTRIANGLE DOWN",
    "aBROKEN CIRCLE WITH NORTHWEST ARROWaUNDO SYMBOLnMONOSTABLE nHYSTERESIS ",
    "aOPEN-CIRCUIT-OUTPUT H-TYPE SYMBOLqL-aPASSIVE-PULL-DOWN-OUTPUT SYMBOLpUP-",
    "aDIRECT CURRENT SYMBOL FORM TWOaSOFTWARE-FUNCTION SYMBOLaAPL FUNCTIONAL SYMBOL QUAD",
    "aDECIMAL SEPARATOR KEY SYMBOLaPREVIOUS PAGEnNEXT aPRINT SCREEN SYMBOLnCLEAR ",
    "aLEFT PARENTHESIS UPPER HOOKcEXTENSIONcLOWER HOOKnRIGHT PARENTHESIS UPPER cEXTENSION",
    "cLOWER HOOKaLEFT SQUARE BRACKET UPPER CORNERdEXTENSIONdLOWER CORNER",
    "nRIGHT SQUARE BRACKET UPPER dEXTENSIONdLOWER CORNERaLEFT CURLY BRACKET UPPER HOOK",
    "dMIDDLE PIECEdLOWER HOOKaCURLY BRACKET EXTENSIONaRIGHT CURLY BRACKET UPPER HOOKdMIDDLE PIECE",
    "dLOWER HOOKaINTEGRAL EXTENSIONaHORIZONTAL LINE EXTENSION",
    "aUPPER LEFT OR LOWER RIGHT CURLY BRACKET SECTIONoRIGHT OR LOWER LEFT aSUMMATION TOPbBOTTOM",
    "aTOP SQUARE BRACKETnBOTTOM cBRACKET OVER TOP SQUARE BRACKETaRADICAL SYMBOL BOTTOM",
    "aLEFT VERTICAL BOX LINEnRIGHT aHORIZONTAL SCAN LINE-1d3d7d9",
    "aDENTISTRY SYMBOL LIGHT VERTICAL AND TOP RIGHTsBOTTOM eWITH CIRCLE",
    "dDOWN AND HORIZONTAL WITH CIRCLEqUP dVERTICAL WITH TRIANGLEdDOWN AND HORIZONTAL WITH TRIANGLE",
    "qUP dVERTICAL AND WAVEdDOWN AND HORIZONTAL WITH WAVEqUP dDOWN AND HORIZONTALqUP ",
    "dVERTICAL AND TOP LEFTsBOTTOM aSQUARE FOOTaRETURN SYMBOLnEJECT aVERTICAL LINE EXTENSION",
    "aMETRICAL BREVEbLONG OVER SHORTbSHORT OVER LONGbLONG OVER TWO SHORTSbTWO SHORTS OVER LONG",
    "dJOINEDbTRISEMEbTETRASEMEbPENTASEMEaEARTH GROUNDaFUSEaTOP PARENTHESISnBOTTOM ",
    "aTOP CURLY BRACKETnBOTTOM aTOP TORTOISE SHELL BRACKETnBOTTOM aWHITE TRAPEZIUM",
    "aBENZENE RING WITH CIRCLEaSTRAIGHTNESSaFLATNESSaAC CURRENTaELECTRICAL INTERSECTION",
    "aDECIMAL EXPONENT SYMBOLaBLACK RIGHT-POINTING DOUBLE TRIANGLEoLEFT-oUP-oDOWN-",
    "bRIGHT-POINTING DOUBLE TRIANGLE WITH VERTICAL BARoLEFT-oRIGHT-POINTING TRIANGLE WITH DOUBLE ",
    "aALARM CLOCKaSTOPWATCHaTIMER CLOCKaHOURGLASS WITH FLOWING SAND",
    "aBLACK MEDIUM LEFT-POINTING TRIANGLEpRIGHT-pUP-pDOWN-aDOUBLE VERTICAL BAR",
    "aBLACK SQUARE FOR STOPbCIRCLE FOR RECORDaPOWER SYMBOLbON-OFF SYMBOLbON SYMBOLoSLEEP ",
    "nOBSERVER EYE aSYMBOL FOR NULLcSTART OF HEADINGeTEXTpEND eTRANSMISSIONcENQUIRYcACKNOWLEDGE",
    "cBELLcBACKSPACEcHORIZONTAL TABULATIONcLINE FEEDcVERTICAL TABULATIONcFORM FEEDcCARRIAGE RETURN",
    "cSHIFT OUTdINcDATA LINK ESCAPEcDEVICE CONTROL ONEeTWOeTHREEeFOURcNEGATIVE ACKNOWLEDGE",
    "cSYNCHRONOUS IDLEcEND OF TRANSMISSION BLOCKcCANCELcEND OF MEDIUMcSUBSTITUTEcESCAPE",
    "cFILE SEPARATORpGROUP pRECORD pUNIT cSPACEcDELETEaBLANK SYMBOLaOPEN BOXaSYMBOL FOR NEWLINE",
    "cDELETE FORM TWOpSUBSTITUTE ",
    "2440aOCR HOOKbCHAIRbFORKbINVERTED FORKbBELT BUCKLEbBOW TIEbBRANCH BANK IDENTIFICATION",
    "bAMOUNT OF CHECKbDASHbCUSTOMER ACCOUNT NUMBERbDOUBLE BACKSLASH",
    "2460aCIRCLED DIGIT ONEcTWOcTHREEcFOURcFIVEcSIXcSEVENcEIGHTcNINEbNUMBER TENcELEVENcTWELVE",
    "cTHIRTEENcFOURTEENcFIFTEENcSIXTEENcSEVENTEENcEIGHTEENcNINETEENcTWENTYaPARENTHESIZED DIGIT ONE",
    "cTWOcTHREEcFOURcFIVEcSIXcSEVENcEIGHTcNINEbNUMBER TENcELEVENcTWELVEcTHIRTEENcFOURTEENcFIFTEEN",
    "cSIXTEENcSEVENTEENcEIGHTEENcNINETEENcTWENTYaDIGIT ONE FULL STOPoTWO oTHREE oFOUR oFIVE oSIX ",
    "oSEVEN oEIGHT oNINE nNUMBER TEN oELEVEN oTWELVE oTHIRTEEN oFOURTEEN oFIFTEEN oSIXTEEN ",
    "oSEVENTEEN oEIGHTEEN oNINETEEN oTWENTY aPARENTHESIZED LATIN SMALL LETTER AeBeCeDeEeFeGeHeIeJ",
    "eKeLeMeNeOePeQeReSeTeUeVeWeXeYeZaCIRCLED LATIN CAPITAL LETTER AeBeCeDeEeFeGeHeIeJeKeLeMeNeOeP",
    "eQeReSeTeUeVeWeXeYeZcSMALL LETTER AeBeCeDeEeFeGeHeIeJeKeLeMeNeOePeQeReSeTeUeVeWeXeYeZ",
    "bDIGIT ZEROaNEGATIVE CIRCLED NUMBER ELEVENdTWELVEdTHIRTEENdFOURTEENdFIFTEENdSIXTEENdSEVENTEEN",
    "dEIGHTEENdNINETEENdTWENTYaDOUBLE CIRCLED DIGIT ONEdTWOdTHREEdFOURdFIVEdSIXdSEVENdEIGHTdNINE",
    "cNUMBER TENaNEGATIVE CIRCLED DIGIT ZEROaBOX DRAWINGS LIGHT HORIZONTALpHEAVY cLIGHT VERTICAL",
    "pHEAVY cLIGHT TRIPLE DASH HORIZONTALpHEAVY cLIGHT TRIPLE DASH VERTICALpHEAVY ",
    "cLIGHT QUADRUPLE DASH HORIZONTALpHEAVY cLIGHT QUADRUPLE DASH VERTICALpHEAVY ",
    "cLIGHT DOWN AND RIGHTcDOWN LIGHT AND RIGHT HEAVYdHEAVY AND RIGHT LIGHTcHEAVY DOWN AND RIGHT",
    "cLIGHT DOWN AND LEFTcDOWN LIGHT AND LEFT HEAVYdHEAVY AND LEFT LIGHTcHEAVY DOWN AND LEFT",
    "cLIGHT UP AND RIGHTcUP LIGHT AND RIGHT HEAVYdHEAVY AND RIGHT LIGHTcHEAVY UP AND RIGHT",
    "cLIGHT UP AND LEFTcUP LIGHT AND LEFT HEAVYdHEAVY AND LEFT LIGHTcHEAVY UP AND LEFT",
    "cLIGHT VERTICAL AND RIGHTcVERTICAL LIGHT AND RIGHT HEAVYcUP HEAVY AND RIGHT DOWN LIGHT",
    "pDOWN HEAVY AND RIGHT UP cVERTICAL HEAVY AND RIGHT LIGHTcDOWN LIGHT AND RIGHT UP HEAVY",
    "pUP LIGHT AND RIGHT DOWN cHEAVY VERTICAL AND RIGHTcLIGHT VERTICAL AND LEFT",
    "cVERTICAL LIGHT AND LEFT HEAVYcUP HEAVY AND LEFT DOWN LIGHTpDOWN HEAVY AND LEFT UP ",
    "cVERTICAL HEAVY AND LEFT LIGHTcDOWN LIGHT AND LEFT UP HEAVYpUP LIGHT AND LEFT DOWN ",
    "cHEAVY VERTICAL AND LEFTcLIGHT DOWN AND HORIZONTALcLEFT HEAVY AND RIGHT DOWN LIGHT",
    "pRIGHT HEAVY AND LEFT cDOWN LIGHT AND HORIZONTAL HEAVYdHEAVY AND HORIZONTAL LIGHT",
    "cRIGHT LIGHT AND LEFT DOWN HEAVYpLEFT LIGHT AND RIGHT cHEAVY DOWN AND HORIZONTALpLIGHT UP ",
    "cLEFT HEAVY AND RIGHT UP LIGHTpRIGHT HEAVY AND LEFT cUP LIGHT AND HORIZONTAL HEAVY",
    "dHEAVY AND HORIZONTAL LIGHTcRIGHT LIGHT AND LEFT UP HEAVYpLEFT LIGHT AND RIGHT ",
    "cHEAVY UP AND HORIZONTALpLIGHT VERTICAL cLEFT HEAVY AND RIGHT VERTICAL LIGHT",
    "pRIGHT HEAVY AND LEFT cVERTICAL LIGHT AND HORIZONTAL HEAVYcUP HEAVY AND DOWN HORIZONTAL LIGHT",
    "pDOWN HEAVY AND UP cVERTICAL HEAVY AND HORIZONTAL LIGHTcLEFT UP HEAVY AND RIGHT DOWN LIGHT",
    "pRIGHT UP HEAVY AND LEFT pLEFT DOWN HEAVY AND RIGHT UP pRIGHT DOWN HEAVY AND LEFT ",
    "cDOWN LIGHT AND UP HORIZONTAL HEAVYpUP LIGHT AND DOWN pRIGHT LIGHT AND LEFT VERTICAL ",
    "pLEFT LIGHT AND RIGHT cHEAVY VERTICAL AND HORIZONTALpLIGHT DOUBLE DASH pHEAVY ",
    "cLIGHT DOUBLE DASH VERTICALpHEAVY cDOUBLE HORIZONTALdVERTICALcDOWN SINGLE AND RIGHT DOUBLE",
    "dDOUBLE AND RIGHT SINGLEcDOUBLE DOWN AND RIGHTcDOWN SINGLE AND LEFT DOUBLE",
    "dDOUBLE AND LEFT SINGLEcDOUBLE DOWN AND LEFTcUP SINGLE AND RIGHT DOUBLE",
    "dDOUBLE AND RIGHT SINGLEcDOUBLE UP AND RIGHTcUP SINGLE AND LEFT DOUBLEdDOUBLE AND LEFT SINGLE",
    "cDOUBLE UP AND LEFTcVERTICAL SINGLE AND RIGHT DOUBLEdDOUBLE AND RIGHT SINGLE",
    "cDOUBLE VERTICAL AND RIGHTcVERTICAL SINGLE AND LEFT DOUBLEdDOUBLE AND LEFT SINGLE",
    "cDOUBLE VERTICAL AND LEFTcDOWN SINGLE AND HORIZONTAL DOUBLEdDOUBLE AND HORIZONTAL SINGLE",
    "cDOUBLE DOWN AND HORIZONTALcUP SINGLE AND HORIZONTAL DOUBLEdDOUBLE AND HORIZONTAL SINGLE",
    "cDOUBLE UP AND HORIZONTALcVERTICAL SINGLE AND HORIZONTAL DOUBLEdDOUBLE AND HORIZONTAL SINGLE",
    "cDOUBLE VERTICAL AND HORIZONTALcLIGHT ARC DOWN AND RIGHTgLEFTrUP gRIGHT",
    "dDIAGONAL UPPER RIGHT TO LOWER LEFTfLEFT TO LOWER RIGHTeCROSSdLEFTdUPdRIGHTdDOWNcHEAVY LEFT",
    "dUPdRIGHTdDOWNcLIGHT LEFT AND HEAVY RIGHTdUP AND HEAVY DOWNcHEAVY LEFT AND LIGHT RIGHT",
    "dUP AND LIGHT DOWNaUPPER HALF BLOCKaLOWER ONE EIGHTH BLOCKpQUARTER oTHREE EIGHTHS bHALF BLOCK",
    "bFIVE EIGHTHS BLOCKoTHREE QUARTERS oSEVEN EIGHTHS aFULL BLOCKaLEFT SEVEN EIGHTHS BLOCK",
    "oTHREE QUARTERS oFIVE EIGHTHS bHALF BLOCKbTHREE EIGHTHS BLOCKoONE QUARTER pEIGHTH ",
    "aRIGHT HALF BLOCKaLIGHT SHADEnMEDIUM nDARK aUPPER ONE EIGHTH BLOCKnRIGHT aQUADRANT LOWER LEFT",
    "cRIGHTbUPPER LEFTcLEFT AND LOWER LEFT AND LOWER RIGHTfRIGHTeUPPER RIGHT AND LOWER LEFTiRIGHT",
    "cRIGHTcRIGHT AND LOWER LEFTfLEFT AND LOWER RIGHTaBLACK SQUAREnWHITE ",
    "bSQUARE WITH ROUNDED CORNERScCONTAINING BLACK SMALL SQUAREaSQUARE WITH HORIZONTAL FILL",
    "pVERTICAL cORTHOGONAL CROSSHATCH FILLcUPPER LEFT TO LOWER RIGHT FILLqRIGHT TO LOWER LEFT ",
    "cDIAGONAL CROSSHATCH FILLaBLACK SMALL SQUAREnWHITE aBLACK RECTANGLEnWHITE ",
    "aBLACK VERTICAL RECTANGLEnWHITE aBLACK PARALLELOGRAMnWHITE aBLACK UP-POINTING TRIANGLEnWHITE ",
    "aBLACK UP-POINTING SMALL TRIANGLEnWHITE aBLACK RIGHT-POINTING TRIANGLEnWHITE ",
    "aBLACK RIGHT-POINTING SMALL TRIANGLEnWHITE aBLACK RIGHT-POINTING POINTERnWHITE ",
    "aBLACK DOWN-POINTING TRIANGLEnWHITE aBLACK DOWN-POINTING SMALL TRIANGLEnWHITE ",
    "aBLACK LEFT-POINTING TRIANGLEnWHITE aBLACK LEFT-POINTING SMALL TRIANGLEnWHITE ",
    "aBLACK LEFT-POINTING POINTERnWHITE aBLACK DIAMONDnWHITE ",
    "bDIAMOND CONTAINING BLACK SMALL DIAMONDaFISHEYEaLOZENGEaWHITE CIRCLEnDOTTED ",
    "aCIRCLE WITH VERTICAL FILLaBULLSEYEaBLACK CIRCLEaCIRCLE WITH LEFT HALF BLACKpRIGHT pLOWER ",
    "pUPPER dRIGHT QUADRANT BLACKcALL BUT UPPER LEFT QUADRANT BLACKaLEFT HALF BLACK CIRCLEnRIGHT ",
    "aINVERSE BULLETbWHITE CIRCLEaUPPER HALF INVERSE WHITE CIRCLEnLOWER ",
    "aUPPER LEFT QUADRANT CIRCULAR ARCoRIGHT nLOWER oLEFT aUPPER HALF CIRCLEnLOWER ",
    "aBLACK LOWER RIGHT TRIANGLEpLEFT oUPPER pRIGHT aWHITE BULLETaSQUARE WITH LEFT HALF BLACK",
    "pRIGHT cUPPER LEFT DIAGONAL HALF BLACKpLOWER RIGHT aWHITE SQUARE WITH VERTICAL BISECTING LINE",
    "bUP-POINTING TRIANGLE WITH DOTaUP-POINTING TRIANGLE WITH LEFT HALF BLACKrRIGHT aLARGE CIRCLE",
    "aWHITE SQUARE WITH UPPER LEFT QUADRANTqLOWER rRIGHT qUPPER oCIRCLE WITH UPPER LEFT qLOWER ",
    "rRIGHT qUPPER aUPPER LEFT TRIANGLEoRIGHT nLOWER LEFT aWHITE MEDIUM SQUAREnBLACK ",
    "aWHITE MEDIUM SMALL SQUAREnBLACK aLOWER RIGHT TRIANGLEaBLACK SUN WITH RAYSaCLOUDaUMBRELLA",
    "aSNOWMANaCOMETaBLACK STARnWHITE aLIGHTNINGaTHUNDERSTORMaSUNaASCENDING NODEnDESCENDING ",
    "aCONJUNCTIONaOPPOSITIONaBLACK TELEPHONEnWHITE aBALLOT BOXbBOX WITH CHECKdXaSALTIRE",
    "aUMBRELLA WITH RAIN DROPSaHOT BEVERAGEaWHITE SHOGI PIECEnBLACK aSHAMROCK",
    "aREVERSED ROTATED FLORAL HEART BULLETaBLACK LEFT POINTING INDEXoRIGHT nWHITE LEFT oUP oRIGHT ",
    "oDOWN aSKULL AND CROSSBONESaCAUTION SIGNnRADIOACTIVE nBIOHAZARD aCADUCEUSaANKHaORTHODOX CROSS",
    "aCHI RHOaCROSS OF LORRAINEcJERUSALEMaSTAR AND CRESCENTaFARSI SYMBOLaADI SHAKTI",
    "aHAMMER AND SICKLEaPEACE SYMBOLaYIN YANGaTRIGRAM FOR HEAVENcLAKEcFIREcTHUNDERcWINDcWATER",
    "cMOUNTAINcEARTHaWHEEL OF DHARMAaWHITE FROWNING FACEoSMILING nBLACK aWHITE SUN WITH RAYS",
    "aFIRST QUARTER MOONnLAST aMERCURYaFEMALE SIGNaEARTHaMALE SIGNaJUPITERaSATURNaURANUSaNEPTUNE",
    "aPLUTOaARIESaTAURUSaGEMINIaCANCERaLEOaVIRGOaLIBRAaSCORPIUSaSAGITTARIUSaCAPRICORNaAQUARIUS",
    "aPISCESaWHITE CHESS KINGcQUEENcROOKcBISHOPcKNIGHTcPAWNaBLACK CHESS KINGcQUEENcROOKcBISHOP",
    "cKNIGHTcPAWNbSPADE SUITnWHITE HEART oDIAMOND nBLACK CLUB nWHITE SPADE nBLACK HEART oDIAMOND ",
    "nWHITE CLUB aHOT SPRINGSaQUARTER NOTEnEIGHTH aBEAMED EIGHTH NOTESoSIXTEENTH aMUSIC FLAT SIGN",
    "oNATURAL oSHARP aWEST SYRIAC CROSSnEAST aUNIVERSAL RECYCLING SYMBOL",
    "aRECYCLING SYMBOL FOR TYPE-1 PLASTICSr2 r3 r4 r5 r6 r7 dGENERIC MATERIALS",
    "aBLACK UNIVERSAL RECYCLING SYMBOLaRECYCLED PAPER SYMBOLaPARTIALLY-RECYCLED PAPER SYMBOL",
    "aPERMANENT PAPER SIGNaWHEELCHAIR SYMBOLaDIE FACE-1c2c3c4c5c6aWHITE CIRCLE WITH DOT RIGHT",
    "dTWO DOTSaBLACK CIRCLE WITH WHITE DOT RIGHTdTWO WHITE DOTSaMONOGRAM FOR YANGcYIN",
    "aDIGRAM FOR GREATER YANGcLESSER YINdYANGcGREATER YINaWHITE FLAGnBLACK aHAMMER AND PICKaANCHOR",
    "aCROSSED SWORDSaSTAFF OF AESCULAPIUSaSCALESaALEMBICaFLOWERaGEARaSTAFF OF HERMESaATOM SYMBOL",
    "aFLEUR-DE-LISaOUTLINED WHITE STARaTHREE LINES CONVERGING RIGHTdLEFTaWARNING SIGN",
    "aHIGH VOLTAGE SIGNnDOUBLED FEMALE oMALE aINTERLOCKED FEMALE AND MALE SIGN",
    "aMALE AND FEMALE SIGNoWITH STROKE dAND MALE AND FEMALE SIGNaVERTICAL MALE WITH STROKE SIGN",
    "nHORIZONTAL aMEDIUM WHITE CIRCLEoBLACK bSMALL WHITE CIRCLEaMARRIAGE SYMBOLnDIVORCE ",
    "aUNMARRIED PARTNERSHIP SYMBOLaCOFFINaFUNERAL URNaNEUTERaCERESaPALLASaJUNOaVESTAaCHIRON",
    "aBLACK MOON LILITHaSEXTILEaSEMISEXTILEaQUINCUNXaSESQUIQUADRATEaSOCCER BALLaBASEBALL",
    "aSQUARED KEYaWHITE DRAUGHTS MANcKINGaBLACK DRAUGHTS MANcKINGaSNOWMAN WITHOUT SNOW",
    "aSUN BEHIND CLOUDaRAINaBLACK SNOWMANaTHUNDER CLOUD AND RAINaTURNED WHITE SHOGI PIECEoBLACK ",
    "aWHITE DIAMOND IN SQUAREaCROSSING LANESaDISABLED CARaOPHIUCHUSaPICKaCAR SLIDING",
    "aHELMET WITH WHITE CROSSaCIRCLED CROSSING LANESaCHAINSaNO ENTRY",
    "aALTERNATE ONE-WAY LEFT WAY TRAFFICnBLACK TWO-nWHITE aBLACK LEFT LANE MERGEnWHITE ",
    "aDRIVE SLOW SIGNaHEAVY WHITE DOWN-POINTING TRIANGLEaLEFT CLOSED ENTRYaSQUARED SALTIRE",
    "aFALLING DIAGONAL IN WHITE CIRCLE IN BLACK SQUAREaBLACK TRUCKaRESTRICTED LEFT ENTRY-1d2",
    "aASTRONOMICAL SYMBOL FOR URANUSaHEAVY CIRCLE WITH STROKE AND TWO DOTS ABOVEaPENTAGRAM",
    "aRIGHT-HANDED INTERLACED PENTAGRAMnLEFT-aINVERTED PENTAGRAMaBLACK CROSS ON SHIELD",
    "aSHINTO SHRINEaCHURCHaCASTLEaHISTORIC SITEaGEAR WITHOUT HUBbWITH HANDLES",
    "aMAP SYMBOL FOR LIGHTHOUSEaMOUNTAINaUMBRELLA ON GROUNDaFOUNTAINaFLAG IN HOLEaFERRYaSAILBOAT",
    "aSQUARE FOUR CORNERSaSKIERaICE SKATEaPERSON WITH BALLaTENTaJAPANESE BANK SYMBOL",
    "nHEADSTONE GRAVEYARD aFUEL PUMPaCUP ON BLACK SQUARE",
    "aWHITE FLAG WITH HORIZONTAL MIDDLE BLACK STRIPEaBLACK SAFETY SCISSORSnUPPER BLADE ",
    "aBLACK SCISSORSaLOWER BLADE SCISSORSaWHITE SCISSORSbHEAVY CHECK MARKaTELEPHONE LOCATION SIGN",
    "aTAPE DRIVEaAIRPLANEaENVELOPEaRAISED FISTbHANDnVICTORY nWRITING aLOWER RIGHT PENCILaPENCIL",
    "aUPPER RIGHT PENCILaWHITE NIBnBLACK aCHECK MARKaHEAVY CHECK MARKaMULTIPLICATION X",
    "aHEAVY MULTIPLICATION XaBALLOT XaHEAVY BALLOT XaOUTLINED GREEK CROSSnHEAVY nOPEN CENTRE ",
    "aHEAVY OPEN CENTRE CROSSaLATIN CROSSaSHADOWED WHITE LATIN CROSSaOUTLINED LATIN CROSS",
    "aMALTESE CROSSaSTAR OF DAVIDaFOUR TEARDROP-SPOKED ASTERISKoBALLOON-",
    "aHEAVY FOUR BALLOON-SPOKED ASTERISKaFOUR CLUB-SPOKED ASTERISKaBLACK FOUR POINTED STARnWHITE ",
    "aSPARKLESaSTRESS OUTLINED WHITE STARaCIRCLED WHITE STARaOPEN CENTRE BLACK STAR",
    "nBLACK CENTRE WHITE aOUTLINED BLACK STARaHEAVY OUTLINED BLACK STARaPINWHEEL STAR",
    "aSHADOWED WHITE STARaHEAVY ASTERISKaOPEN CENTRE ASTERISKnEIGHT SPOKED bPOINTED BLACK STAR",
    "pPINWHEEL nSIX POINTED BLACK aEIGHT POINTED RECTILINEAR BLACK STAR",
    "aHEAVY EIGHT POINTED RECTILINEAR BLACK STARaTWELVE POINTED BLACK STAR",
    "aSIXTEEN POINTED ASTERISKnTEARDROP-SPOKED aOPEN CENTRE TEARDROP-SPOKED ASTERISK",
    "aHEAVY TEARDROP-SPOKED ASTERISKaSIX PETALLED BLACK AND WHITE FLORETTEaBLACK FLORETTEnWHITE ",
    "aEIGHT PETALLED OUTLINED BLACK FLORETTEaCIRCLED OPEN CENTRE EIGHT POINTED STAR",
    "aHEAVY TEARDROP-SPOKED PINWHEEL ASTERISKaSNOWFLAKEaTIGHT TRIFOLIATE SNOWFLAKEnHEAVY CHEVRON ",
    "aSPARKLEaHEAVY SPARKLEaBALLOON-SPOKED ASTERISKaEIGHT TEARDROP-SPOKED PROPELLER ASTERISK",
    "aHEAVY EIGHT TEARDROP-SPOKED PROPELLER ASTERISKaCROSS MARKaSHADOWED WHITE CIRCLE",
    "aNEGATIVE SQUARED CROSS MARKaLOWER RIGHT DROP-SHADOWED WHITE SQUAREnUPPER ",
    "aLOWER RIGHT SHADOWED WHITE SQUAREnUPPER aBLACK QUESTION MARK ORNAMENTnWHITE oEXCLAMATION ",
    "aBLACK DIAMOND MINUS WHITE XaHEAVY EXCLAMATION MARK SYMBOLaLIGHT VERTICAL BARnMEDIUM nHEAVY ",
    "bSINGLE TURNED COMMA QUOTATION MARK ORNAMENTcCOMMA QUOTATION MARK ORNAMENT",
    "bDOUBLE TURNED COMMA QUOTATION MARK ORNAMENTcCOMMA QUOTATION MARK ORNAMENT",
    "bLOW SINGLE COMMA QUOTATION MARK ORNAMENTpDOUBLE aCURVED STEM PARAGRAPH SIGN ORNAMENT",
    "aHEAVY EXCLAMATION MARK ORNAMENTbHEART EXCLAMATION MARK ORNAMENTbBLACK HEART",
    "aROTATED HEAVY BLACK HEART BULLETaFLORAL HEARTaROTATED FLORAL HEART BULLET",
    "aMEDIUM LEFT PARENTHESIS ORNAMENToRIGHT bFLATTENED LEFT PARENTHESIS ORNAMENTpRIGHT ",
    "bLEFT-POINTING ANGLE BRACKET ORNAMENToRIGHT-",
    "aHEAVY LEFT-POINTING ANGLE QUOTATION MARK ORNAMENToRIGHT-",
    "bLEFT-POINTING ANGLE BRACKET ORNAMENToRIGHT-nLIGHT LEFT TORTOISE SHELL oRIGHT ",
    "aMEDIUM LEFT CURLY BRACKET ORNAMENToRIGHT aDINGBAT NEGATIVE CIRCLED DIGIT ONEeTWOeTHREEeFOUR",
    "eFIVEeSIXeSEVENeEIGHTeNINEdNUMBER TENbCIRCLED SANS-SERIF DIGIT ONEfTWOfTHREEfFOURfFIVEfSIX",
    "fSEVENfEIGHTfNINEeNUMBER TENbNEGATIVE CIRCLED SANS-SERIF DIGIT ONEgTWOgTHREEgFOURgFIVEgSIX",
    "gSEVENgEIGHTgNINEfNUMBER TENaHEAVY WIDE-HEADED RIGHTWARDS ARROWbPLUS SIGNoMINUS oDIVISION ",
    "bSOUTH EAST ARROWbRIGHTWARDS ARROWbNORTH EAST ARROWnDRAFTING POINT RIGHTWARDS ",
    "aHEAVY ROUND-TIPPED RIGHTWARDS ARROWaTRIANGLE-HEADED RIGHTWARDS ARROW",
    "aHEAVY TRIANGLE-HEADED RIGHTWARDS ARROWnDASHED aHEAVY DASHED TRIANGLE-HEADED RIGHTWARDS ARROW",
    "aBLACK RIGHTWARDS ARROWaTHREE-D TOP-LIGHTED RIGHTWARDS ARROWHEADpBOTTOM-",
    "aBLACK RIGHTWARDS ARROWHEADaHEAVY BLACK CURVED DOWNWARDS AND RIGHTWARDS ARROWqUPWARDS ",
    "aSQUAT BLACK RIGHTWARDS ARROWaHEAVY CONCAVE-POINTED BLACK RIGHTWARDS ARROW",
    "aRIGHT-SHADED WHITE RIGHTWARDS ARROWnLEFT-aBACK-TILTED SHADOWED WHITE RIGHTWARDS ARROWnFRONT-",
    "aHEAVY LOWER RIGHT-SHADOWED WHITE RIGHTWARDS ARROWoUPPER nNOTCHED LOWER aCURLY LOOP",
    "aNOTCHED UPPER RIGHT-SHADOWED WHITE RIGHTWARDS ARROWaCIRCLED HEAVY WHITE RIGHTWARDS ARROW",
    "aWHITE-FEATHERED RIGHTWARDS ARROWaBLACK-FEATHERED SOUTH EAST ARROWcRIGHTWARDS ARROW",
    "cNORTH EAST ARROWaHEAVY BLACK-FEATHERED SOUTH EAST ARROWdRIGHTWARDS ARROWdNORTH EAST ARROW",
    "aTEARDROP-BARBED RIGHTWARDS ARROWaHEAVY TEARDROP-SHANKED RIGHTWARDS ARROW",
    "aWEDGE-TAILED RIGHTWARDS ARROWaHEAVY WEDGE-TAILED RIGHTWARDS ARROW",
    "aOPEN-OUTLINED RIGHTWARDS ARROWaDOUBLE CURLY LOOPaTHREE DIMENSIONAL ANGLE",
    "aWHITE TRIANGLE CONTAINING SMALL WHITE TRIANGLEaPERPENDICULARaOPEN SUBSETbSUPERSET",
    "aLEFT S-SHAPED BAG DELIMITERnRIGHT aOR WITH DOT INSIDEaREVERSE SOLIDUS PRECEDING SUBSET",
    "aSUPERSET PRECEDING SOLIDUSaVERTICAL BAR WITH HORIZONTAL STROKEaMATHEMATICAL RISING DIAGONAL",
    "aLONG DIVISIONaMATHEMATICAL FALLING DIAGONALaSQUARED LOGICAL ANDcOR",
    "aWHITE DIAMOND WITH CENTRED DOTaAND WITH DOTaELEMENT OF OPENING UPWARDS",
    "aLOWER RIGHT CORNER WITH DOTnUPPER LEFT aLEFT OUTER JOINnRIGHT nFULL aLARGE UP TACKoDOWN ",
    "aLEFT AND RIGHT DOUBLE TURNSTILEdTACKbMULTIMAPaLONG RIGHT TACKoLEFT ",
    "aUP TACK WITH CIRCLE ABOVEaLOZENGE DIVIDED BY HORIZONTAL RULEaWHITE CONCAVE-SIDED DIAMOND",
    "dDIAMOND WITH LEFTWARDS TICKsRIGHTWARDS bSQUARE WITH LEFTWARDS TICKqRIGHTWARDS ",
    "aMATHEMATICAL LEFT WHITE SQUARE BRACKEToRIGHT bLEFT ANGLE BRACKEToRIGHT ",
    "bLEFT DOUBLE ANGLE BRACKEToRIGHT bLEFT WHITE TORTOISE SHELL BRACKEToRIGHT ",
    "bLEFT FLATTENED PARENTHESISoRIGHT aUPWARDS QUADRUPLE ARROWnDOWNWARDS ",
    "aANTICLOCKWISE GAPPED CIRCLE ARROWnCLOCKWISE aRIGHT ARROW WITH CIRCLED PLUS",
    "aLONG LEFTWARDS ARROWoRIGHTWARDS bLEFT RIGHT ARROWoLEFTWARDS DOUBLE oRIGHTWARDS ",
    "bLEFT RIGHT DOUBLE ARROWbLEFTWARDS ARROW FROM BARoRIGHTWARDS bLEFTWARDS DOUBLE ARROW FROM BAR",
    "oRIGHTWARDS cSQUIGGLE ARROWaBRAILLE PATTERN BLANKcDOTS-1d2d12d3d13d23d123d4d14d24d124d34d134",
    "d234d1234d5d15d25d125d35d135d235d1235d45d145d245d1245d345d1345d2345d12345d6d16d26d126d36d136",
    "d236d1236d46d146d246d1246d346d1346d2346d12346d56d156d256d1256d356d1356d2356d12356d456d1456",
    "d2456d12456d3456d13456d23456d123456d7d17d27d127d37d137d237d1237d47d147d247d1247d347d1347d2347",
    "d12347d57d157d257d1257d357d1357d2357d12357d457d1457d2457d12457d3457d13457d23457d123457d67d167",
    "d267d1267d367d1367d2367d12367d467d1467d2467d12467d3467d13467d23467d123467d567d1567d2567d12567",
    "d3567d13567d23567d123567d4567d14567d24567d124567d34567d134567d234567d1234567d8d18d28d128d38",
    "d138d238d1238d48d148d248d1248d348d1348d2348d12348d58d158d258d1258d358d1358d2358d12358d458",
    "d1458d2458d12458d3458d13458d23458d123458d68d168d268d1268d368d1368d2368d12368d468d1468d2468",
    "d12468d3468d13468d23468d123468d568d1568d2568d12568d3568d13568d23568d123568d4568d14568d24568",
    "d124568d34568d134568d234568d1234568d78d178d278d1278d378d1378d2378d12378d478d1478d2478d12478",
    "d3478d13478d23478d123478d578d1578d2578d12578d3578d13578d23578d123578d4578d14578d24578d124578",
    "d34578d134578d234578d1234578d678d1678d2678d12678d3678d13678d23678d123678d4678d14678d24678",
    "d124678d34678d134678d234678d1234678d5678d15678d25678d125678d35678d135678d235678d1235678d45678",
    "d145678d245678d1245678d345678d1345678d2345678d12345678",
    "aRIGHTWARDS TWO-HEADED ARROW WITH VERTICAL STROKEfDOUBLE VERTICAL STROKE",
    "aLEFTWARDS DOUBLE ARROW WITH VERTICAL STROKEnRIGHTWARDS ",
    "aLEFT RIGHT DOUBLE ARROW WITH VERTICAL STROKEaRIGHTWARDS TWO-HEADED ARROW FROM BAR",
    "aLEFTWARDS DOUBLE ARROW FROM BARnRIGHTWARDS aDOWNWARDS ARROW WITH HORIZONTAL STROKEnUPWARDS ",
    "bTRIPLE ARROWnDOWNWARDS aLEFTWARDS DOUBLE DASH ARROWnRIGHTWARDS nLEFTWARDS TRIPLE ",
    "nRIGHTWARDS bTWO-HEADED TRIPLE DASH ARROWbARROW WITH DOTTED STEMaUPWARDS ARROW TO BAR",
    "nDOWNWARDS aRIGHTWARDS ARROW WITH TAIL WITH VERTICAL STROKEfDOUBLE VERTICAL STROKE",
    "bTWO-HEADED ARROW WITH TAILfTAIL WITH VERTICAL STROKEhDOUBLE VERTICAL STROKE",
    "aLEFTWARDS ARROW-TAILnRIGHTWARDS aLEFTWARDS DOUBLE ARROW-TAILnRIGHTWARDS ",
    "aLEFTWARDS ARROW TO BLACK DIAMONDnRIGHTWARDS aLEFTWARDS ARROW FROM BAR TO BLACK DIAMOND",
    "nRIGHTWARDS aNORTH WEST AND SOUTH EAST ARROWoEAST AND SOUTH WEST bWEST ARROW WITH HOOKoEAST ",
    "nSOUTH oWEST aNORTH WEST ARROW AND NORTH EAST ARROWoEAST ARROW AND SOUTH ",
    "nSOUTH EAST ARROW AND SOUTH WEST oWEST ARROW AND NORTH ",
    "aRISING DIAGONAL CROSSING FALLING DIAGONALnFALLING DIAGONAL CROSSING RISING ",
    "aSOUTH EAST ARROW CROSSING NORTH EAST ARROWnNORTH EAST ARROW CROSSING SOUTH ",
    "aFALLING DIAGONAL CROSSING NORTH EAST ARROWnRISING DIAGONAL CROSSING SOUTH ",
    "aNORTH EAST ARROW CROSSING NORTH WEST ARROWoWEST ARROW CROSSING NORTH EAST ",
    "aWAVE ARROW POINTING DIRECTLY RIGHTaARROW POINTING RIGHTWARDS THEN CURVING UPWARDSfDOWNWARDS",
    "cDOWNWARDS THEN CURVING LEFTWARDSfRIGHTWARDSaRIGHT-SIDE ARC CLOCKWISE ARROW",
    "nLEFT-SIDE ARC ANTICLOCKWISE aTOP ARC ANTICLOCKWISE ARROWnBOTTOM ",
    "aTOP ARC CLOCKWISE ARROW WITH MINUScANTICLOCKWISE ARROW WITH PLUS",
    "aLOWER RIGHT SEMICIRCULAR CLOCKWISE ARROWoLEFT SEMICIRCULAR ANTICLOCKWISE ",
    "aANTICLOCKWISE CLOSED CIRCLE ARROWnCLOCKWISE aRIGHTWARDS ARROW ABOVE SHORT LEFTWARDS ARROW",
    "nLEFTWARDS ARROW ABOVE SHORT RIGHTWARDS nSHORT RIGHTWARDS ARROW ABOVE LEFTWARDS ",
    "aRIGHTWARDS ARROW WITH PLUS BELOWnLEFTWARDS aRIGHTWARDS ARROW THROUGH X",
    "aLEFT RIGHT ARROW THROUGH SMALL CIRCLEaUPWARDS TWO-HEADED ARROW FROM SMALL CIRCLE",
    "aLEFT BARB UP RIGHT BARB DOWN HARPOONpDOWN RIGHT BARB UP nUP BARB RIGHT DOWN BARB LEFT ",
    "pLEFT DOWN BARB RIGHT nLEFT BARB UP RIGHT BARB UP nUP BARB RIGHT DOWN BARB RIGHT ",
    "nLEFT BARB DOWN RIGHT BARB DOWN nUP BARB LEFT DOWN BARB LEFT ",
    "aLEFTWARDS HARPOON WITH BARB UP TO BARnRIGHTWARDS nUPWARDS HARPOON WITH BARB RIGHT ",
    "nDOWNWARDS nLEFTWARDS HARPOON WITH BARB DOWN nRIGHTWARDS nUPWARDS HARPOON WITH BARB LEFT ",
    "nDOWNWARDS nLEFTWARDS HARPOON WITH BARB UP FROM nRIGHTWARDS nUPWARDS HARPOON WITH BARB RIGHT ",
    "nDOWNWARDS nLEFTWARDS HARPOON WITH BARB DOWN nRIGHTWARDS nUPWARDS HARPOON WITH BARB LEFT ",
    "nDOWNWARDS aLEFTWARDS HARPOON WITH BARB UP ABOVE LEFTWARDS HARPOON WITH BARB DOWN",
    "aUPWARDS HARPOON WITH BARB LEFT BESIDE UPWARDS HARPOON WITH BARB RIGHT",
    "aRIGHTWARDS HARPOON WITH BARB UP ABOVE RIGHTWARDS HARPOON WITH BARB DOWN",
    "aDOWNWARDS HARPOON WITH BARB LEFT BESIDE DOWNWARDS HARPOON WITH BARB RIGHT",
    "aLEFTWARDS HARPOON WITH BARB UP ABOVE RIGHTWARDS HARPOON WITH BARB UP",
    "eDOWN ABOVE RIGHTWARDS HARPOON WITH BARB DOWN",
    "aRIGHTWARDS HARPOON WITH BARB UP ABOVE LEFTWARDS HARPOON WITH BARB UP",
    "eDOWN ABOVE LEFTWARDS HARPOON WITH BARB DOWNaLEFTWARDS HARPOON WITH BARB UP ABOVE LONG DASH",
    "rDOWN BELOW nRIGHTWARDS HARPOON WITH BARB UP ABOVE rDOWN BELOW ",
    "aUPWARDS HARPOON WITH BARB LEFT BESIDE DOWNWARDS HARPOON WITH BARB RIGHT",
    "nDOWNWARDS HARPOON WITH BARB LEFT BESIDE UPWARDS aRIGHT DOUBLE ARROW WITH ROUNDED HEAD",
    "aEQUALS SIGN ABOVE RIGHTWARDS ARROWnTILDE OPERATOR aLEFTWARDS ARROW ABOVE TILDE OPERATOR",
    "nRIGHTWARDS dALMOST EQUAL TOaLESS-THAN ABOVE LEFTWARDS ARROW",
    "aLEFTWARDS ARROW THROUGH LESS-THANaGREATER-THAN ABOVE RIGHTWARDS ARROW",
    "aSUBSET ABOVE RIGHTWARDS ARROWaLEFTWARDS ARROW THROUGH SUBSETaSUPERSET ABOVE LEFTWARDS ARROW",
    "aLEFT FISH TAILnRIGHT nUP nDOWN aTRIPLE VERTICAL BAR DELIMITERaZ NOTATION SPOTcTYPE COLON",
    "aLEFT WHITE CURLY BRACKETnRIGHT aLEFT WHITE PARENTHESISnRIGHT aZ NOTATION LEFT IMAGE BRACKET",
    "pRIGHT pLEFT BINDING pRIGHT aLEFT SQUARE BRACKET WITH UNDERBARnRIGHT ",
    "aLEFT SQUARE BRACKET WITH TICK IN TOP CORNERnRIGHT SQUARE BRACKET WITH TICK IN BOTTOM nLEFT ",
    "nRIGHT SQUARE BRACKET WITH TICK IN TOP aLEFT ANGLE BRACKET WITH DOTnRIGHT ",
    "aLEFT ARC LESS-THAN BRACKETnRIGHT ARC GREATER-aDOUBLE LEFT ARC GREATER-THAN BRACKET",
    "oRIGHT ARC LESS-aLEFT BLACK TORTOISE SHELL BRACKETnRIGHT aDOTTED FENCEaVERTICAL ZIGZAG LINE",
    "aMEASURED ANGLE OPENING LEFTaRIGHT ANGLE VARIANT WITH SQUAREaMEASURED RIGHT ANGLE WITH DOT",
    "aANGLE WITH S INSIDEaACUTE ANGLEaSPHERICAL ANGLE OPENING LEFTdUPaTURNED ANGLEnREVERSED ",
    "aANGLE WITH UNDERBARaREVERSED ANGLE WITH UNDERBARaOBLIQUE ANGLE OPENING UPdDOWN",
    "aMEASURED ANGLE WITH OPEN ARM ENDING IN ARROW POINTING UP AND RIGHTlLEFTjDOWN AND RIGHTlLEFT",
    "jRIGHT AND UPwLEFT jRIGHT AND DOWNwLEFT aREVERSED EMPTY SETaEMPTY SET WITH OVERBAR",
    "dSMALL CIRCLE ABOVEqRIGHT ARROW qLEFT aCIRCLE WITH HORIZONTAL BARaCIRCLED VERTICAL BAR",
    "bPARALLELbREVERSE SOLIDUSbPERPENDICULAR",
    "aCIRCLE DIVIDED BY HORIZONTAL BAR AND TOP HALF DIVIDED BY VERTICAL BARbWITH SUPERIMPOSED X",
    "aCIRCLED ANTICLOCKWISE-ROTATED DIVISION SIGNaUP ARROW THROUGH CIRCLEaCIRCLED WHITE BULLET",
    "bBULLETbLESS-THANoGREATER-aCIRCLE WITH SMALL CIRCLE TO THE RIGHT",
    "cTWO HORIZONTAL STROKES TO THE RIGHTaSQUARED RISING DIAGONAL SLASHoFALLING bASTERISK",
    "bSMALL CIRCLEbSQUAREaTWO JOINED SQUARESaTRIANGLE WITH DOT ABOVEcUNDERBARaS IN TRIANGLE",
    "aTRIANGLE WITH SERIFS AT BOTTOMaRIGHT TRIANGLE ABOVE LEFT TRIANGLE",
    "aLEFT TRIANGLE BESIDE VERTICAL BARaVERTICAL BAR BESIDE RIGHT TRIANGLE",
    "aBOWTIE WITH LEFT HALF BLACKpRIGHT aBLACK BOWTIEaTIMES WITH LEFT HALF BLACKpRIGHT ",
    "aWHITE HOURGLASSnBLACK aLEFT WIGGLY FENCEnRIGHT aLEFT DOUBLE WIGGLY FENCEnRIGHT ",
    "aINCOMPLETE INFINITYaTIE OVER INFINITYaINFINITY NEGATED WITH VERTICAL BAR",
    "aDOUBLE-ENDED MULTIMAPaSQUARE WITH CONTOURED OUTLINEaINCREASES ASaSHUFFLE PRODUCT",
    "aEQUALS SIGN AND SLANTED PARALLELePARALLEL WITH TILDE ABOVEaIDENTICAL TO AND SLANTED PARALLEL",
    "aGLEICH STARKaTHERMODYNAMICaDOWN-POINTING TRIANGLE WITH LEFT HALF BLACKrRIGHT ",
    "aBLACK DIAMOND WITH DOWN ARROWbLOZENGEaWHITE CIRCLE WITH DOWN ARROWnBLACK ",
    "aERROR-BARRED WHITE SQUAREpBLACK cWHITE DIAMONDpBLACK cWHITE CIRCLEpBLACK aRULE-DELAYED",
    "aREVERSE SOLIDUS OPERATORaSOLIDUS WITH OVERBARaREVERSE SOLIDUS WITH HORIZONTAL STROKE",
    "aBIG SOLIDUSbREVERSE SOLIDUSaDOUBLE PLUSnTRIPLE aLEFT-POINTING CURVED ANGLE BRACKETnRIGHT-",
    "aTINYaMINYaN-ARY CIRCLED DOT OPERATORqPLUS qTIMES cUNION OPERATOR WITH DOTfPLUS",
    "cSQUARE INTERSECTION OPERATORqUNION aTWO LOGICAL AND OPERATORpOR nN-ARY TIMES aMODULO TWO SUM",
    "aSUMMATION WITH INTEGRALaQUADRUPLE INTEGRAL OPERATORaFINITE PART INTEGRAL",
    "aINTEGRAL WITH DOUBLE STROKEbAVERAGE WITH SLASHaCIRCULATION FUNCTION",
    "aANTICLOCKWISE INTEGRATIONaLINE INTEGRATION WITH RECTANGULAR PATH AROUND POLEqSEMICIRCULAR ",
    "cNOT INCLUDING THE POLEaINTEGRAL AROUND A POINT OPERATORaQUATERNION INTEGRAL OPERATOR",
    "aINTEGRAL WITH LEFTWARDS ARROW WITH HOOKcTIMES SIGNcINTERSECTIONcUNIONcOVERBARcUNDERBARaJOIN",
    "aLARGE LEFT TRIANGLE OPERATORaZ NOTATION SCHEMA COMPOSITIONdPIPINGdPROJECTION",
    "aPLUS SIGN WITH SMALL CIRCLE ABOVEqCIRCUMFLEX ACCENT dTILDE ABOVEdDOT BELOWqTILDE ",
    "dSUBSCRIPT TWOdBLACK TRIANGLEaMINUS SIGN WITH COMMA ABOVEdDOT BELOWdFALLING DOTSqRISING ",
    "aPLUS SIGN IN LEFT HALF CIRCLEqRIGHT aVECTOR OR CROSS PRODUCT",
    "aMULTIPLICATION SIGN WITH DOT ABOVEdUNDERBARaSEMIDIRECT PRODUCT WITH BOTTOM CLOSED",
    "aSMASH PRODUCTaMULTIPLICATION SIGN IN LEFT HALF CIRCLEqRIGHT ",
    "aCIRCLED MULTIPLICATION SIGN WITH CIRCUMFLEX ACCENTaMULTIPLICATION SIGN IN DOUBLE CIRCLE",
    "aCIRCLED DIVISION SIGNaPLUS SIGN IN TRIANGLEnMINUS nMULTIPLICATION aINTERIOR PRODUCT",
    "aRIGHTHAND INTERIOR PRODUCTaZ NOTATION RELATIONAL COMPOSITIONaAMALGAMATION OR COPRODUCT",
    "aINTERSECTION WITH DOTaUNION WITH MINUS SIGNcOVERBARnINTERSECTION cLOGICAL AND",
    "aUNION WITH LOGICAL ORbABOVE INTERSECTIONaINTERSECTION ABOVE UNION",
    "aUNION ABOVE BAR ABOVE INTERSECTIONaINTERSECTION ABOVE BAR ABOVE UNION",
    "aUNION BESIDE AND JOINED WITH UNIONaINTERSECTION BESIDE AND JOINED WITH INTERSECTION",
    "aCLOSED UNION WITH SERIFSoINTERSECTION aDOUBLE SQUARE INTERSECTIONcUNION",
    "aCLOSED UNION WITH SERIFS AND SMASH PRODUCTaLOGICAL AND WITH DOT ABOVEoOR aDOUBLE LOGICAL AND",
    "cORaTWO INTERSECTING LOGICAL ANDdORaSLOPING LARGE ORcANDaLOGICAL OR OVERLAPPING LOGICAL AND",
    "bAND WITH MIDDLE STEMoOR bAND WITH HORIZONTAL DASHoOR bAND WITH DOUBLE OVERBARdUNDERBAR",
    "dDOUBLE UNDERBARaSMALL VEE WITH UNDERBARaLOGICAL OR WITH DOUBLE OVERBAReUNDERBAR",
    "aZ NOTATION DOMAIN ANTIRESTRICTIONpRANGE aEQUALS SIGN WITH DOT BELOWaIDENTICAL WITH DOT ABOVE",
    "aTRIPLE HORIZONTAL BAR WITH DOUBLE VERTICAL STROKErTRIPLE aTILDE OPERATOR WITH DOT ABOVE",
    "dRISING DOTSaSIMILAR MINUS SIMILARaCONGRUENT WITH DOT ABOVEaEQUALS WITH ASTERISK",
    "aALMOST EQUAL TO WITH CIRCUMFLEX ACCENTaAPPROXIMATELY EQUAL OR EQUAL TO",
    "aEQUALS SIGN ABOVE PLUS SIGNnPLUS SIGN ABOVE EQUALS aEQUALS SIGN ABOVE TILDE OPERATOR",
    "aDOUBLE COLON EQUALaTWO CONSECUTIVE EQUALS SIGNSnTHREE ",
    "aEQUALS SIGN WITH TWO DOTS ABOVE AND TWO DOTS BELOWaEQUIVALENT WITH FOUR DOTS ABOVE",
    "aLESS-THAN WITH CIRCLE INSIDEnGREATER-aLESS-THAN WITH QUESTION MARK ABOVEnGREATER-",
    "aLESS-THAN OR SLANTED EQUAL TOnGREATER-aLESS-THAN OR SLANTED EQUAL TO WITH DOT INSIDE",
    "nGREATER-aLESS-THAN OR SLANTED EQUAL TO WITH DOT ABOVEnGREATER-",
    "aLESS-THAN OR SLANTED EQUAL TO WITH DOT ABOVE RIGHT",
    "aGREATER-THAN OR SLANTED EQUAL TO WITH DOT ABOVE LEFTaLESS-THAN OR APPROXIMATEnGREATER-",
    "aLESS-THAN AND SINGLE-LINE NOT EQUAL TOnGREATER-aLESS-THAN AND NOT APPROXIMATEnGREATER-",
    "aLESS-THAN ABOVE DOUBLE-LINE EQUAL ABOVE GREATER-THAN",
    "nGREATER-THAN ABOVE DOUBLE-LINE EQUAL ABOVE LESS-aLESS-THAN ABOVE SIMILAR OR EQUALnGREATER-",
    "aLESS-THAN ABOVE SIMILAR ABOVE GREATER-THANnGREATER-THAN ABOVE SIMILAR ABOVE LESS-",
    "aLESS-THAN ABOVE GREATER-THAN ABOVE DOUBLE-LINE EQUALnGREATER-THAN ABOVE LESS-",
    "aLESS-THAN ABOVE SLANTED EQUAL ABOVE GREATER-THAN ABOVE SLANTED EQUAL",
    "nGREATER-THAN ABOVE SLANTED EQUAL ABOVE LESS-aSLANTED EQUAL TO OR LESS-THANrGREATER-",
    "eLESS-THAN WITH DOT INSIDErGREATER-aDOUBLE-LINE EQUAL TO OR LESS-THANsGREATER-",
    "cSLANTED EQUAL TO OR LESS-THANtGREATER-aSIMILAR OR LESS-THANpGREATER-",
    "bABOVE LESS-THAN ABOVE EQUALS SIGNpGREATER-aDOUBLE NESTED LESS-THANpGREATER-",
    "cLESS-THAN WITH UNDERBARaGREATER-THAN OVERLAPPING LESS-THANpBESIDE aLESS-THAN CLOSED BY CURVE",
    "nGREATER-aLESS-THAN CLOSED BY CURVE ABOVE SLANTED EQUALnGREATER-aSMALLER THANnLARGER ",
    "aSMALLER THAN OR EQUAL TOnLARGER aEQUALS SIGN WITH BUMPY ABOVE",
    "aPRECEDES ABOVE SINGLE-LINE EQUALS SIGNnSUCCEEDS aPRECEDES ABOVE SINGLE-LINE NOT EQUAL TO",
    "nSUCCEEDS aPRECEDES ABOVE EQUALS SIGNnSUCCEEDS aPRECEDES ABOVE NOT EQUAL TOnSUCCEEDS ",
    "nPRECEDES ABOVE ALMOST nSUCCEEDS aPRECEDES ABOVE NOT ALMOST EQUAL TOnSUCCEEDS ",
    "aDOUBLE PRECEDESbSUCCEEDSaSUBSET WITH DOTnSUPERSET aSUBSET WITH PLUS SIGN BELOWnSUPERSET ",
    "nSUBSET WITH MULTIPLICATION nSUPERSET aSUBSET OF OR EQUAL TO WITH DOT ABOVEnSUPERSET ",
    "aSUBSET OF ABOVE EQUALS SIGNnSUPERSET aSUBSET OF ABOVE TILDE OPERATORnSUPERSET ",
    "aSUBSET OF ABOVE ALMOST EQUAL TOnSUPERSET nSUBSET OF ABOVE NOT nSUPERSET ",
    "aSQUARE LEFT OPEN BOX OPERATORoRIGHT aCLOSED SUBSETbSUPERSETbSUBSET OR EQUAL TOoSUPERSET ",
    "aSUBSET ABOVE SUPERSETaSUPERSET ABOVE SUBSETnSUBSET aSUPERSET ABOVE SUPERSETbBESIDE SUBSET",
    "cAND JOINED BY DASH WITH SUBSETaELEMENT OF OPENING DOWNWARDSaPITCHFORK WITH TEE TOP",
    "aTRANSVERSAL INTERSECTIONaFORKINGaNONFORKINGaSHORT LEFT TACKoDOWN oUP aPERPENDICULAR WITH S",
    "aVERTICAL BAR TRIPLE RIGHT TURNSTILEnDOUBLE VERTICAL BAR LEFT nVERTICAL BAR DOUBLE ",
    "aDOUBLE VERTICAL BAR DOUBLE LEFT TURNSTILEaLONG DASH FROM LEFT MEMBER OF DOUBLE VERTICAL",
    "aSHORT DOWN TACK WITH OVERBARbUP TACK WITH UNDERBARdABOVE SHORT DOWN TACKaDOUBLE DOWN TACK",
    "oUP bSTROKE NOT SIGNaREVERSED DOUBLE STROKE NOT SIGN",
    "aDOES NOT DIVIDE WITH REVERSED NEGATION SLASHaVERTICAL LINE WITH CIRCLE ABOVEeBELOW",
    "nDOWN TACK aPARALLEL WITH HORIZONTAL STROKEcTILDE OPERATOR",
    "aTRIPLE VERTICAL BAR BINARY RELATIONdWITH HORIZONTAL STROKEbCOLON OPERATORbNESTED LESS-THAN",
    "pGREATER-aDOUBLE-LINE SLANTED LESS-THAN OR EQUAL TOqGREATER-aTRIPLE SOLIDUS BINARY RELATION",
    "aLARGE TRIPLE VERTICAL BAR OPERATORaDOUBLE SOLIDUS OPERATORaWHITE VERTICAL BAR",
    "aN-ARY WHITE VERTICAL BARaNORTH EAST WHITE ARROWoWEST nSOUTH EAST oWEST nLEFT RIGHT ",
    "aLEFTWARDS BLACK ARROWnUPWARDS nDOWNWARDS aNORTH EAST BLACK ARROWoWEST nSOUTH EAST oWEST ",
    "nLEFT RIGHT nUP DOWN aRIGHTWARDS ARROW WITH TIP DOWNWARDSeUPWARDS",
    "aLEFTWARDS ARROW WITH TIP DOWNWARDSeUPWARDSaSQUARE WITH TOP HALF BLACKpBOTTOM ",
    "cUPPER RIGHT DIAGONAL HALF BLACKpLOWER LEFT aDIAMOND WITH LEFT HALF BLACKpRIGHT pTOP pBOTTOM ",
    "aDOTTED SQUAREaBLACK LARGE SQUAREnWHITE aBLACK VERY SMALL SQUAREnWHITE aBLACK PENTAGONnWHITE ",
    "bHEXAGONnBLACK aHORIZONTAL BLACK HEXAGONaBLACK LARGE CIRCLEbMEDIUM DIAMONDnWHITE ",
    "aBLACK MEDIUM LOZENGEnWHITE aBLACK SMALL DIAMONDcLOZENGEnWHITE aBLACK HORIZONTAL ELLIPSE",
    "nWHITE nBLACK VERTICAL nWHITE aLEFT ARROW WITH SMALL CIRCLEaTHREE LEFTWARDS ARROWS",
    "aLEFT ARROW WITH CIRCLED PLUSaLONG LEFTWARDS SQUIGGLE ARROW",
    "aLEFTWARDS TWO-HEADED ARROW WITH VERTICAL STROKEfDOUBLE VERTICAL STROKEeFROM BAR",
    "dTRIPLE DASH ARROWbARROW WITH DOTTED STEMdTAIL WITH VERTICAL STROKEfDOUBLE VERTICAL STROKE",
    "bTWO-HEADED ARROW WITH TAILfTAIL WITH VERTICAL STROKEhDOUBLE VERTICAL STROKEbARROW THROUGH X",
    "aWAVE ARROW POINTING DIRECTLY LEFTaEQUALS SIGN ABOVE LEFTWARDS ARROW",
    "aREVERSE TILDE OPERATOR ABOVE LEFTWARDS ARROWaLEFTWARDS ARROW ABOVE REVERSE ALMOST EQUAL TO",
    "aRIGHTWARDS ARROW THROUGH GREATER-THANdSUPERSETaLEFTWARDS QUADRUPLE ARROWnRIGHTWARDS ",
    "aREVERSE TILDE OPERATOR ABOVE RIGHTWARDS ARROWaRIGHTWARDS ARROW ABOVE REVERSE ALMOST EQUAL TO",
    "aTILDE OPERATOR ABOVE LEFTWARDS ARROWaLEFTWARDS ARROW ABOVE ALMOST EQUAL TO",
    "dREVERSE TILDE OPERATORnRIGHTWARDS aDOWNWARDS TRIANGLE-HEADED ZIGZAG ARROW",
    "aSHORT SLANTED NORTH ARROWoBACKSLANTED SOUTH aWHITE MEDIUM STARnBLACK SMALL nWHITE ",
    "aBLACK RIGHT-POINTING PENTAGONnWHITE aHEAVY LARGE CIRCLEbOVAL WITH OVAL INSIDE",
    "oCIRCLE WITH CIRCLE bCIRCLEbCIRCLED SALTIREaSLANTED NORTH ARROW WITH HOOKED HEAD",
    "aBACKSLANTED SOUTH ARROW WITH HOOKED TAILnSLANTED NORTH ARROW WITH HORIZONTAL ",
    "nBACKSLANTED SOUTH aBENT ARROW POINTING DOWNWARDS THEN NORTH EAST",
    "aSHORT BENT ARROW POINTING DOWNWARDS THEN NORTH EASTaLEFTWARDS TRIANGLE-HEADED ARROWnUPWARDS ",
    "nRIGHTWARDS nDOWNWARDS aLEFT RIGHT TRIANGLE-HEADED ARROWnUP DOWN nNORTH WEST oEAST nSOUTH ",
    "oWEST nLEFTWARDS TRIANGLE-HEADED DASHED nUPWARDS nRIGHTWARDS nDOWNWARDS ",
    "aCLOCKWISE TRIANGLE-HEADED OPEN CIRCLE ARROWnANTICLOCKWISE ",
    "aLEFTWARDS TRIANGLE-HEADED ARROW TO BARnUPWARDS nRIGHTWARDS nDOWNWARDS ",
    "2B76aNORTH WEST TRIANGLE-HEADED ARROW TO BARoEAST nSOUTH oWEST ",
    "aLEFTWARDS TRIANGLE-HEADED ARROW WITH DOUBLE HORIZONTAL STROKEnUPWARDS nRIGHTWARDS ",
    "nDOWNWARDS aHORIZONTAL TAB KEYnVERTICAL ",
    "aLEFTWARDS TRIANGLE-HEADED ARROW OVER RIGHTWARDS TRIANGLE-HEADED ARROW",
    "aUPWARDS TRIANGLE-HEADED ARROW LEFTWARDS OF DOWNWARDS TRIANGLE-HEADED ARROW",
    "aRIGHTWARDS TRIANGLE-HEADED ARROW OVER LEFTWARDS TRIANGLE-HEADED ARROW",
    "aDOWNWARDS TRIANGLE-HEADED ARROW LEFTWARDS OF UPWARDS TRIANGLE-HEADED ARROW",
    "aLEFTWARDS TRIANGLE-HEADED PAIRED ARROWSnUPWARDS nRIGHTWARDS nDOWNWARDS ",
    "aLEFTWARDS BLACK CIRCLED WHITE ARROWnUPWARDS nRIGHTWARDS nDOWNWARDS ",
    "aANTICLOCKWISE TRIANGLE-HEADED RIGHT U-SHAPED ARROWqBOTTOM qLEFT qTOP aRETURN LEFTbRIGHT",
    "aNEWLINE LEFTbRIGHTaFOUR CORNER ARROWS CIRCLING ANTICLOCKWISEaRIGHTWARDS BLACK ARROW",
    "2B97aSYMBOL FOR TYPE A ELECTRONICSaTHREE-D TOP-LIGHTED LEFTWARDS EQUILATERAL ARROWHEAD",
    "pRIGHT-LIGHTED UPWARDS pTOP-LIGHTED RIGHTWARDS pLEFT-LIGHTED DOWNWARDS ",
    "aBLACK LEFTWARDS EQUILATERAL ARROWHEADoUPWARDS oRIGHTWARDS oDOWNWARDS ",
    "aDOWNWARDS TRIANGLE-HEADED ARROW WITH LONG TIP LEFTWARDShRIGHTWARDS",
    "aUPWARDS TRIANGLE-HEADED ARROW WITH LONG TIP LEFTWARDShRIGHTWARDS",
    "aLEFTWARDS TRIANGLE-HEADED ARROW WITH LONG TIP UPWARDSnRIGHTWARDS ",
    "aLEFTWARDS TRIANGLE-HEADED ARROW WITH LONG TIP DOWNWARDSnRIGHTWARDS ",
    "aBLACK CURVED DOWNWARDS AND LEFTWARDS ARROWrRIGHTWARDS pUPWARDS AND LEFTWARDS rRIGHTWARDS ",
    "pLEFTWARDS AND UPWARDS pRIGHTWARDS pLEFTWARDS AND DOWNWARDS pRIGHTWARDS ",
    "aRIBBON ARROW DOWN LEFTdRIGHTcUP LEFTdRIGHTcLEFT UPpRIGHT cLEFT DOWNpRIGHT ",
    "aUPWARDS WHITE ARROW FROM BAR WITH HORIZONTAL BARaUP ARROWHEAD IN A RECTANGLE BOX",
    "aOVERLAPPING WHITE SQUAREScAND BLACK SQUARESbBLACK SQUARESaBALLOT BOX WITH LIGHT XaCIRCLED X",
    "bBOLD XaBLACK SQUARE CENTREDoDIAMOND aTURNED BLACK PENTAGONaHORIZONTAL BLACK OCTAGON",
    "aBLACK OCTAGONbMEDIUM UP-POINTING TRIANGLE CENTREDpDOWN-pLEFT-pRIGHT-aNEPTUNE FORM TWO",
    "aTOP HALF BLACK CIRCLEnBOTTOM aLIGHT FOUR POINTED BLACK CUSP",
    "aROTATED LIGHT FOUR POINTED BLACK CUSPaWHITE FOUR POINTED CUSP",
    "aROTATED WHITE FOUR POINTED CUSPaSQUARE POSITION INDICATORaUNCERTAINTY SIGNaGROUP MARK",
    "aPLUTO FORM TWOcTHREEcFOURcFIVEaTRANSPLUTOaPROSERPINAaASTRAEAaHYGIEAaPHOLUSaNESSUS",
    "aWHITE MOON SELENAaBLACK DIAMOND ON CROSSaTRUE LIGHT MOON ARTAaCUPIDOaHADESaZEUSaKRONOS",
    "aAPOLLONaADMETOSaVULCANUSaPOSEIDONaLEFT HALF BLACK STARnRIGHT aSTAR WITH LEFT HALF BLACK",
    "pRIGHT aLEFTWARDS TWO-HEADED ARROW WITH TRIANGLE ARROWHEADSnUPWARDS nRIGHTWARDS nDOWNWARDS ",
    "aERIS FORM ONEcTWOaSEDNAaRUSSIAN ASTROLOGICAL SYMBOL VIGINTILEdNOVILEdQUINTILEdBINOVILE",
    "dSENTAGONdTREDECILEaEQUALS SIGN WITH INFINITY BELOWaUNITED SYMBOLnSEPARATED nDOUBLED nPASSED ",
    "aREVERSED RIGHT ANGLEaHELLSCHREIBER PAUSE SYMBOLaGLAGOLITIC CAPITAL LETTER AZUdBUKYdVEDE",
    "dGLAGOLIdDOBROdYESTUdZHIVETEdDZELOdZEMLJAdIZHEdINITIAL IZHEdIdDJERVIdKAKOdLJUDIJEdMYSLITE",
    "dNASHIdONUdPOKOJIdRITSIdSLOVOdTVRIDOdUKUdFRITUdHERUdOTUdPEdSHTAdTSIdCHRIVIdSHAdYERUdYERIdYATI",
    "dSPIDERY HAdYUdSMALL YUSeYUS WITH TAILdYOdIOTATED SMALL YUSdBIG YUSdIOTATED BIG YUSdFITA",
    "dIZHITSAdSHTAPICdTROKUTASTI AdLATINATE MYSLITEdCAUDATE CHRIVIbSMALL LETTER AZUdBUKYdVEDE",
    "dGLAGOLIdDOBROdYESTUdZHIVETEdDZELOdZEMLJAdIZHEdINITIAL IZHEdIdDJERVIdKAKOdLJUDIJEdMYSLITE",
    "dNASHIdONUdPOKOJIdRITSIdSLOVOdTVRIDOdUKUdFRITUdHERUdOTUdPEdSHTAdTSIdCHRIVIdSHAdYERUdYERIdYATI",
    "dSPIDERY HAdYUdSMALL YUSeYUS WITH TAILdYOdIOTATED SMALL YUSdBIG YUSdIOTATED BIG YUSdFITA",
    "dIZHITSAdSHTAPICdTROKUTASTI AdLATINATE MYSLITEdCAUDATE CHRIVI",
    "aLATIN CAPITAL LETTER L WITH DOUBLE BARoSMALL bCAPITAL LETTER L WITH MIDDLE TILDE",
    "dP WITH STROKEdR WITH TAILbSMALL LETTER A WITH STROKEdT WITH DIAGONAL STROKE",
    "bCAPITAL LETTER H WITH DESCENDERoSMALL oCAPITAL LETTER K oSMALL oCAPITAL LETTER Z oSMALL ",
    "bCAPITAL LETTER ALPHAdM WITH HOOKdTURNED AeALPHAbSMALL LETTER V WITH RIGHT HOOK",
    "bCAPITAL LETTER W WITH HOOKoSMALL dV WITH CURLbCAPITAL LETTER HALF HoSMALL dTAILLESS PHI",
    "dE WITH NOTCHdTURNED R WITH TAILdO WITH LOW RING INSIDEbLETTER SMALL CAPITAL TURNED E",
    "bSUBSCRIPT SMALL LETTER JaMODIFIER LETTER CAPITAL VaLATIN CAPITAL LETTER S WITH SWASH TAILqZ ",
    "aCOPTIC CAPITAL LETTER ALFAoSMALL bCAPITAL LETTER VIDAoSMALL bCAPITAL LETTER GAMMAoSMALL ",
    "bCAPITAL LETTER DALDAoSMALL bCAPITAL LETTER EIEoSMALL bCAPITAL LETTER SOUoSMALL ",
    "bCAPITAL LETTER ZATAoSMALL bCAPITAL LETTER HATEoSMALL bCAPITAL LETTER THETHEoSMALL ",
    "bCAPITAL LETTER IAUDAoSMALL bCAPITAL LETTER KAPAoSMALL bCAPITAL LETTER LAULAoSMALL ",
    "bCAPITAL LETTER MIoSMALL bCAPITAL LETTER NIoSMALL bCAPITAL LETTER KSIoSMALL bCAPITAL LETTER O",
    "oSMALL bCAPITAL LETTER PIoSMALL bCAPITAL LETTER ROoSMALL bCAPITAL LETTER SIMAoSMALL ",
    "bCAPITAL LETTER TAUoSMALL bCAPITAL LETTER UAoSMALL bCAPITAL LETTER FIoSMALL ",
    "bCAPITAL LETTER KHIoSMALL bCAPITAL LETTER PSIoSMALL bCAPITAL LETTER OOUoSMALL ",
    "bCAPITAL LETTER DIALECT-P ALEFoSMALL bCAPITAL LETTER OLD COPTIC AINoSMALL ",
    "bCAPITAL LETTER CRYPTOGRAMMIC EIEoSMALL bCAPITAL LETTER DIALECT-P KAPAoSMALL ",
    "bCAPITAL LETTER DIALECT-P NIoSMALL bCAPITAL LETTER CRYPTOGRAMMIC NIoSMALL ",
    "bCAPITAL LETTER OLD COPTIC OOUoSMALL bCAPITAL LETTER SAMPIoSMALL bCAPITAL LETTER CROSSED SHEI",
    "oSMALL bCAPITAL LETTER OLD COPTIC SHEIoSMALL bCAPITAL LETTER OLD COPTIC ESHoSMALL ",
    "bCAPITAL LETTER AKHMIMIC KHEIoSMALL bCAPITAL LETTER DIALECT-P HORIoSMALL ",
    "oCAPITAL LETTER OLD COPTIC oSMALL bCAPITAL LETTER OLD COPTIC HAoSMALL ",
    "oCAPITAL LETTER L-SHAPED oSMALL bCAPITAL LETTER OLD COPTIC HEIoSMALL ",
    "bCAPITAL LETTER OLD COPTIC HAToSMALL bCAPITAL LETTER OLD COPTIC GANGIAoSMALL ",
    "bCAPITAL LETTER OLD COPTIC DJAoSMALL bCAPITAL LETTER OLD COPTIC SHIMAoSMALL ",
    "oCAPITAL LETTER OLD NUBIAN oSMALL bCAPITAL LETTER OLD NUBIAN NGIoSMALL ",
    "bCAPITAL LETTER OLD NUBIAN NYIoSMALL bCAPITAL LETTER OLD NUBIAN WAUoSMALL bSYMBOL KAIcMI RO",
    "pPI cSTAUROScTAU ROpKHI cSHIMA SIMAbCAPITAL LETTER CRYPTOGRAMMIC SHEIoSMALL ",
    "bCAPITAL LETTER CRYPTOGRAMMIC GANGIAoSMALL bCOMBINING NI ABOVEcSPIRITUS ASPERdLENIS",
    "bCAPITAL LETTER BOHAIRIC KHEIoSMALL ",
    "2CF9bOLD NUBIAN FULL STOPdDIRECT QUESTION MARKqINDIRECT dVERSE DIVIDERbFRACTION ONE HALF",
    "bFULL STOPbMORPHOLOGICAL DIVIDERaGEORGIAN SMALL LETTER ANdBANdGANdDONdENdVINdZENdTANdINdKAN",
    "dLASdMANdNARdONdPARdZHARdRAEdSANdTARdUNdPHARdKHARdGHANdQARdSHINdCHINdCANdJILdCILdCHARdXAN",
    "dJHANdHAEdHEdHIEdWEdHARdHOE", "2D27dYN", "2D2DdAEN",
    "2D30aTIFINAGH LETTER YAcYABcYABHcYAGcYAGHHcBERBER ACADEMY YAJcYAJcYADcYADHcYADDcYADDHcYEYcYAF",
    "cYAKcTUAREG YAKcYAKHHcYAHcBERBER ACADEMY YAHcTUAREG YAHcYAHHcYAAcYAKHcTUAREG YAKHcYAQ",
    "cTUAREG YAQcYIcYAZHcAHAGGAR YAZHpTUAREG cYALcYAMcYANcTUAREG YAGNdYANGcYAPcYUcYARcYARRcYAGH",
    "cTUAREG YAGHpAYER cYAScYASScYASHcYATcYATHcYACHcYATTcYAVcYAWcYAYcYAZcTAWELLEMET YAZcYAZZcYEcYO",
    "2D6FbMODIFIER LETTER LABIALIZATION MARKbSEPARATOR MARK",
    "2D7FbCONSONANT JOINERaETHIOPIC SYLLABLE LOAcMOAcROAcSOAcSHOAcBOAcTOAcCOAcNOAcNYOAcGLOTTAL OA",
    "cZOAcDOAcDDOAcJOAcTHOAcCHOAcPHOAcPOAcGGWAcGGWIcGGWEEcGGWE",
    "2DA0cSSAcSSUcSSIcSSAAcSSEEcSSEcSSO", "2DA8cCCAcCCUcCCIcCCAAcCCEEcCCEcCCO",
    "2DB0cZZAcZZUcZZIcZZAAcZZEEcZZEcZZO", "2DB8cCCHAcCCHUcCCHIcCCHAAcCCHEEcCCHEcCCHO",
    "2DC0cQYAcQYUcQYIcQYAAcQYEEcQYEcQYO", "2DC8cKYAcKYUcKYIcKYAAcKYEEcKYEcKYO",
    "2DD0cXYAcXYUcXYIcXYAAcXYEEcXYEcXYO", "2DD8cGYAcGYUcGYIcGYAAcGYEEcGYEcGYO",
    "2DE0aCOMBINING CYRILLIC LETTER BEdVEdGHEdDEdZHEdZEdKAdELdEMdENdOdPEdERdESdTEdHAdTSEdCHEdSHA",
    "dSHCHAdFITAdES-TEdAdIEdDJERVdMONOGRAPH UKdYATdYUdIOTIFIED AdLITTLE YUSqBIG dIOTIFIED BIG YUS",
    "aRIGHT ANGLE SUBSTITUTION MARKERcDOTTED SUBSTITUTION MARKERaLEFT SUBSTITUTION BRACKETnRIGHT ",
    "aLEFT DOTTED SUBSTITUTION BRACKETnRIGHT aRAISED INTERPOLATION MARKER",
    "bDOTTED INTERPOLATION MARKERaDOTTED TRANSPOSITION MARKERaLEFT TRANSPOSITION BRACKETnRIGHT ",
    "aRAISED SQUAREaLEFT RAISED OMISSION BRACKETnRIGHT aEDITORIAL CORONISaPARAGRAPHOS",
    "aFORKED PARAGRAPHOSaREVERSED FORKED PARAGRAPHOSaHYPODIASTOLEaDOTTED OBELOSaDOWNWARDS ANCORA",
    "nUPWARDS aDOTTED RIGHT-POINTING ANGLEaDOUBLE OBLIQUE HYPHENaINVERTED INTERROBANGaPALM BRANCH",
    "aHYPHEN WITH DIAERESISaTILDE WITH RING ABOVEaLEFT LOW PARAPHRASE BRACKETnRIGHT ",
    "aTILDE WITH DOT ABOVEdBELOWaLEFT VERTICAL BAR WITH QUILLnRIGHT aTOP LEFT HALF BRACKEToRIGHT ",
    "nBOTTOM LEFT oRIGHT nLEFT SIDEWAYS U nRIGHT aLEFT DOUBLE PARENTHESISnRIGHT ",
    "aTWO DOTS OVER ONE DOT PUNCTUATIONnONE DOT OVER TWO DOTS aSQUARED FOUR DOT PUNCTUATION",
    "aFIVE DOT MARKnREVERSED QUESTION aVERTICAL TILDEaRING POINTaWORD SEPARATOR MIDDLE DOT",
    "aTURNED COMMAaRAISED DOTbCOMMAaTURNED SEMICOLONaDAGGER WITH LEFT GUARDpRIGHT aTURNED DAGGER",
    "aTOP HALF SECTION SIGNaTWO-EM DASHnTHREE-aSTENOGRAPHIC FULL STOPaVERTICAL SIX DOTS",
    "aWIGGLY VERTICAL LINEaCAPITULUMaDOUBLE HYPHENaREVERSED COMMA",
    "aDOUBLE LOW-REVERSED-9 QUOTATION MARKaDASH WITH LEFT UPTURNaDOUBLE SUSPENSION MARK",
    "aINVERTED LOW KAVYKAcKAVYKA WITH KAVYKA ABOVEaLOW KAVYKAbKAVYKA WITH DOTaDOUBLE STACKED COMMA",
    "aDOTTED SOLIDUSaTRIPLE DAGGERaMEDIEVAL COMMAaPARAGRAPHUS MARKaPUNCTUS ELEVATUS MARK",
    "aCORNISH VERSE DIVIDERaCROSS PATTY WITH RIGHT CROSSBARqLEFT aTIRONIAN SIGN CAPITAL ET",
    "aMEDIEVAL EXCLAMATION MARKoQUESTION aLEFT SQUARE BRACKET WITH STROKEnRIGHT ",
    "aLEFT SQUARE BRACKET WITH DOUBLE STROKEnRIGHT aTOP HALF LEFT PARENTHESISpRIGHT ",
    "nBOTTOM HALF LEFT pRIGHT aOBLIQUE HYPHEN",
    "2E80aCJK RADICAL REPEATcCLIFFcSECOND ONEdTWOdTHREEcPERSONcBOXcTABLEcKNIFE ONEdTWOcDIVINATION",
    "cSEALcSMALL ONEdTWOcLAME ONEdTWOdTHREEdFOURcSNAKEcTHREADcSNOUT ONEdTWOcHEART ONEdTWOcHANDcRAP",
    "2E9BcCHOKEcSUNcMOONcDEATHcMOTHERcCIVILIANcWATER ONEdTWOcFIREcPAW ONEdTWO",
    "cSIMPLIFIED HALF TREE TRUNKcCOWcDOGcJADEcBOLT OF CLOTHcEYEcSPIRIT ONEdTWOcBAMBOOcSILK",
    "cC-SIMPLIFIED SILKcNET ONEdTWOdTHREEdFOURcMESHcSHEEPcRAMcEWEcOLDcBRUSH ONEdTWOcMEATcMORTAR",
    "cGRASS ONEdTWOdTHREEcTIGERcCLOTHEScWEST ONEdTWOcC-SIMPLIFIED SEEcSIMPLIFIED HORNcHORN",
    "cC-SIMPLIFIED SPEECHeSHELLcFOOTcC-SIMPLIFIED CARTcSIMPLIFIED WALKcWALK ONEdTWOcCITY",
    "cC-SIMPLIFIED GOLDcLONG ONEdTWOcC-SIMPLIFIED LONGeGATEcMOUND ONEdTWOcRAINcBLUE",
    "cC-SIMPLIFIED TANNED LEATHEReLEAFeWINDeFLYcEAT ONEdTWOdTHREEcC-SIMPLIFIED EATcHEAD",
    "cC-SIMPLIFIED HORSEcBONEcGHOSTcC-SIMPLIFIED FISHeBIRDeSALTcSIMPLIFIED WHEATdYELLOW",
    "cC-SIMPLIFIED FROGcJ-SIMPLIFIED EVENpC-cJ-SIMPLIFIED TOOTHpC-cJ-SIMPLIFIED DRAGONpC-cTURTLE",
    "cJ-SIMPLIFIED TURTLEpC-",
    "2F00aKANGXI RADICAL ONEcLINEcDOTcSLASHcSECONDcHOOKcTWOcLIDcMANcLEGScENTERcEIGHTcDOWN BOX",
    "cCOVERcICEcTABLEcOPEN BOXcKNIFEcPOWERcWRAPcSPOONcRIGHT OPEN BOXcHIDING ENCLOSUREcTEN",
    "cDIVINATIONcSEALcCLIFFcPRIVATEcAGAINcMOUTHcENCLOSUREcEARTHcSCHOLARcGOcGO SLOWLYcEVENINGcBIG",
    "cWOMANcCHILDcROOFcINCHcSMALLcLAMEcCORPSEcSPROUTcMOUNTAINcRIVERcWORKcONESELFcTURBANcDRY",
    "cSHORT THREADcDOTTED CLIFFcLONG STRIDEcTWO HANDScSHOOTcBOWcSNOUTcBRISTLEcSTEPcHEARTcHALBERD",
    "cDOORcHANDcBRANCHcRAPcSCRIPTcDIPPERcAXEcSQUAREcNOTcSUNcSAYcMOONcTREEcLACKcSTOPcDEATHcWEAPON",
    "cDO NOTcCOMPAREcFURcCLANcSTEAMcWATERcFIREcCLAWcFATHERcDOUBLE XcHALF TREE TRUNKcSLICEcFANGcCOW",
    "cDOGcPROFOUNDcJADEcMELONcTILEcSWEETcLIFEcUSEcFIELDcBOLT OF CLOTHcSICKNESScDOTTED TENTcWHITE",
    "cSKINcDISHcEYEcSPEARcARROWcSTONEcSPIRITcTRACKcGRAINcCAVEcSTANDcBAMBOOcRICEcSILKcJARcNETcSHEEP",
    "cFEATHERcOLDcANDcPLOWcEARcBRUSHcMEATcMINISTERcSELFcARRIVEcMORTARcTONGUEcOPPOSEcBOATcSTOPPING",
    "cCOLORcGRASScTIGERcINSECTcBLOODcWALK ENCLOSUREcCLOTHEScWESTcSEEcHORNcSPEECHcVALLEYcBEANcPIG",
    "cBADGERcSHELLcREDcRUNcFOOTcBODYcCARTcBITTERcMORNINGcWALKcCITYcWINEcDISTINGUISHcVILLAGEcGOLD",
    "cLONGcGATEcMOUNDcSLAVEcSHORT TAILED BIRDcRAINcBLUEcWRONGcFACEcLEATHERcTANNED LEATHERcLEEK",
    "cSOUNDcLEAFcWINDcFLYcEATcHEADcFRAGRANTcHORSEcBONEcTALLcHAIRcFIGHTcSACRIFICIAL WINEcCAULDRON",
    "cGHOSTcFISHcBIRDcSALTcDEERcWHEATcHEMPcYELLOWcMILLETcBLACKcEMBROIDERYcFROGcTRIPODcDRUMcRAT",
    "cNOSEcEVENcTOOTHcDRAGONcTURTLEcFLUTE",
    "2FF0aIDEOGRAPHIC DESCRIPTION CHARACTER LEFT TO RIGHTdABOVE TO BELOWdLEFT TO MIDDLE AND RIGHT",
    "dABOVE TO MIDDLE AND BELOWdFULL SURROUNDdSURROUND FROM ABOVEfBELOWfLEFTfUPPER LEFTgRIGHT",
    "fLOWER LEFTdOVERLAID"]

/-- Names from the code point 1A000 on. -/
def pictures : List String := [
    "1AFF0aKATAKANA LETTER MINNAN TONE-2e3e4e5", "1AFF5e7e8dNASALIZED TONE-1f2f3f4f5", "1AFFDf7f8",
    "1B000cARCHAIC EaHIRAGANA LETTER ARCHAIC YEaHENTAIGANA LETTER A-1d2d3dWOcI-1d2d3d4cU-1d2d3d4d5",
    "cE-2d3d4d5d6cO-1d2d3cKA-1d2d3d4d5d6d7d8d9d10d11dKEcKI-1d2d3d4d5d6d7d8cKU-1d2d3d4d5d6d7cKE-1d2",
    "d3d4d5d6cKO-1d2d3dKIcSA-1d2d3d4d5d6d7d8cSI-1d2d3d4d5d6cSU-1d2d3d4d5d6d7d8cSE-1d2d3d4d5cSO-1d2",
    "d3d4d5d6d7cTA-1d2d3d4cTI-1d2d3d4d5d6d7cTU-1d2d3d4dTOcTE-1d2d3d4d5d6d7d8d9cTO-1d2d3d4d5d6dRA",
    "cNA-1d2d3d4d5d6d7d8d9cNI-1d2d3d4d5d6d7dTEcNU-1d2d3cNE-1d2d3d4d5d6dKOcNO-1d2d3d4d5cHA-1d2d3d4",
    "d5d6d7d8d9d10d11cHI-1d2d3d4d5d6d7cHU-1d2d3cHE-1d2d3d4d5d6d7cHO-1d2d3d4d5d6d7d8cMA-1d2d3d4d5d6",
    "d7cMI-1d2d3d4d5d6d7cMU-1d2d3d4cME-1d2dMAcMO-1d2d3d4d5d6cYA-1d2d3d4d5dYOcYU-1d2d3d4cYO-1d2d3d4",
    "d5d6cRA-1d2d3d4cRI-1d2d3d4d5d6d7cRU-1d2d3d4d5d6cRE-1d2d3d4cRO-1d2d3d4d5d6cWA-1d2d3d4d5cWI-1d2",
    "d3d4d5cWE-1d2d3d4cWO-1d2d3d4d5d6d7cN-MU-MO-1f2aHIRAGANA LETTER ARCHAIC WU",
    "aKATAKANA LETTER ARCHAIC YIdYEdWU", "1B150aHIRAGANA LETTER SMALL WIdWEdWO",
    "1B164aKATAKANA LETTER SMALL WIdWEdWOdN",
    "1BC00aDUPLOYAN LETTER HcXcPcTcFcKcLcBcDcVcGcRcP NcD ScF NcK McR ScTHcSLOAN DHcDHcKKcSLOAN J",
    "cHLcLHcRHcMcNcJcScM NcN MpJ cS JcM WITH DOTpN pJ eDOTS INSIDE AND ABOVEcS WITH DOTeDOT BELOW",
    "cM SpN pJ pS cM N SpN M pJ pS J cJ S WITH DOTdNdN ScS TdT RdPdP RcT SdR ScWcWHcW RcS NdM",
    "cK R SpG cS KdK RcAcSLOAN OWcOAcOcAOUcIcEcIEcSHORT IcUIcEEcSLOAN EHcROMANIAN IcSLOAN EE",
    "cLONG IcYEcUcEUcXWcU NcLONG UpROMANIAN cUHcSLOAN UcOOHcOWcOUcWAcWOcWIcWEIcWOWcNASAL UdOdIdA",
    "cPERNIN ANdAMcSLOAN ENdANdONcVOCALIC M",
    "1BC70bAFFIX LEFT HORIZONTAL SECANTpMID pRIGHT pLOW VERTICAL pMID pHIGH cATTACHED SECANT",
    "dLEFT-TO-RIGHT SECANTdTANGENTdTAILdE HOOKqI qTANGENT ",
    "1BC80cHIGH ACUTEdTIGHT ACUTEdGRAVEdLONG GRAVEdDOTdCIRCLEdLINEdWAVEdVERTICAL",
    "1BC90cLOW ACUTEdTIGHT ACUTEdGRAVEdLONG GRAVEdDOTdCIRCLEdLINEdWAVEdVERTICALdARROW",
    "1BC9CbSIGN O WITH CROSSbTHICK LETTER SELECTORbDOUBLE MARKbPUNCTUATION CHINOOK FULL STOP",
    "aSHORTHAND FORMAT LETTER OVERLAPpCONTINUING cDOWN STEPpUP ",
    "1CF00aZNAMENNY COMBINING MARK GORAZDO NIZKO S KRYZHEM ON LEFTdNIZKO S KRYZHEM ON LEFT",
    "dTSATA ON LEFTdGORAZDO NIZKO ON LEFTdNIZKO ON LEFTqSREDNE dMALO POVYSHE ON LEFT",
    "dPOVYSHE ON LEFTqVYSOKO dMALO POVYSHE S KHOKHLOM ON LEFTdPOVYSHE S KHOKHLOM ON LEFTqVYSOKO ",
    "dGORAZDO NIZKO S KRYZHEM ON RIGHTdNIZKO S KRYZHEM ON RIGHTdTSATA ON RIGHT",
    "dGORAZDO NIZKO ON RIGHTdNIZKO ON RIGHTqSREDNE dMALO POVYSHE ON RIGHTdPOVYSHE ON RIGHTqVYSOKO ",
    "dMALO POVYSHE S KHOKHLOM ON RIGHTdPOVYSHE S KHOKHLOM ON RIGHTqVYSOKO dTSATA S KRYZHEM",
    "dMALO POVYSHE S KRYZHEMdSTRANNO MALO POVYSHEdPOVYSHE S KRYZHEMeSTRANNOdVYSOKO S KRYZHEM",
    "dMALO POVYSHE STRANNOdGORAZDO VYSOKOdZELOdONdRAVNOdTIKHAYAdBORZAYAdUDARKAdPODVERTKAdLOMKA",
    "dKUPNAYAdKACHKAdZEVOKdSKOBAdRAZSEKAdKRYZH ON LEFT",
    "1CF30cTONAL RANGE MARK MRACHNOfSVETLOfTRESVETLOcMARK ZADERZHKAdDEMESTVENNY ZADERZHKAdOTSECHKA",
    "dPODCHASHIEdPODCHASHIE WITH VERTICAL STROKEdCHASHKAdCHASHKA POLNAYAdOBLACHKOdSOROCHYA NOZHKA",
    "dTOCHKAdDVOETOCHIEcATTACHING VERTICAL OMETpMARK CURVED dKRYZHcLOWER TONAL RANGE INDICATOR",
    "bPRIZNAK MODIFIER LEVEL-2e3dDIRECTION FLIPdKRYZHdROG",
    "1CF50bNEUME KRYUKcKRYUK TIKHYcPARAKLITcDVA V CHELNUcKLYUCHcZANOZHEKcSTOPITSA",
    "cSTOPITSA S OCHKOMcPEREVODKAcPEREVODKA NEPOSTOYANNAYAcSTOPITSA WITH SOROCHYA NOZHKA",
    "cCHELYUSTKAcPALKAcZAPYATAYAcGOLUBCHIK BORZYdTIKHYdMRACHNYdSVETLYdTRESVETLYcVRAKHIYA PROSTAYA",
    "dMRACHNAYAdSVETLAYAdTRESVETLAYAdKLYUCHEVAYA PROSTAYAeMRACHNAYAeSVETLAYAeTRESVETLAYA",
    "cDOUBLE ZAPYATAYAcREVERSED CHELYUSTKAcDERBITSAcKHAMILOcCHASHKAcPODCHASHIEcSKAMEYTSA MRACHNAYA",
    "dSVETLAYAdTRESVETLAYAdTIKHAYAcDEMESTVENNY KLYUCHcSKAMEYTSA KLYUCHEVAYA SVETLAYA",
    "dKLYUCHENEPOSTOYANNAYAdKLYUCHEVAYA TIKHAYAdDVOECHELNAYA PROSTAYAeSVETLAYAeNEPOSTOYANNAYA",
    "eKLYUCHEVAYAcSLOZHITIEcSLOZHITIE S ZAPYATOYdZAKRYTOEdS KRYZHEMcKRYZHcROGcFITAcKOBYLAcZMEYTSA",
    "cSTATYAcSTATYA S ZAPYATOYeKRYZHEMeZAPYATOY I KRYZHEMeKRYZHEM I ZAPYATOYdZAKRYTAYA",
    "dZAKRYTAYA S ZAPYATOYdS ROGOMeDVUMYA ZAPYATYMIeZAPYATOY I PODCHASHIEMcPOLKULIZMY",
    "cSTATYA NEPOSTOYANNAYAcSTRELA PROSTAYAdMRACHNOTIKHAYAdKRYZHEVAYAdPOLUPOVODNAYAdPOVODNAYA",
    "dNEPOSTOYANNAYAdKLYUCHEPOVODNAYAdKLYUCHENEPOSTOYANNAYAdTIKHAYA PUTNAYAdDVOECHELNAYA",
    "dDVOECHELNOKRYZHEVAYAdDVOECHELNOPOVODNAYAdDVOECHELNAYA KLYUCHEVAYAqDVOECHELNOPOVODNAYA ",
    "dGROMNAYA WITH SINGLE ZAPYATAYAqGROMOPOVODNAYA dGROMNAYAdGROMOPOVODNAYA",
    "dGROMOPOVODNAYA WITH DOUBLE ZAPYATAYAdGROMOKRYZHEVAYAdGROMOKRYZHEVAYA POVODNAYAcMECHIK",
    "cMECHIK POVODNYdKLYUCHEVOYdKLYUCHEPOVODNYdKLYUCHENEPOSTOYANNYcSTRELA TRYASOGLASNAYA",
    "dTRYASOPOVODNAYAdTRYASOSTRELNAYAcOSOKAcOSOKA SVETLAYAdTRESVETLAYAdKRYUKOVAYA SVETLAYA",
    "qKLYUCHEVAYA eNEPOSTOYANNAYAcSTRELA KRYUKOVAYAdKRYUKOVAYA POVODNAYA",
    "eGROMNAYA WITH SINGLE ZAPYATAYArGROMOPOVODNAYA eGROMNAYAeGROMOPOVODNAYA",
    "eGROMOPOVODNAYA WITH DOUBLE ZAPYATAYAeGROMOKRYZHEVAYAeGROMOKRYZHEVAYA POVODNAYAeTRYASKA",
    "cKUFISMAcOBLAKOcDUDAcNEMKAcPAUK",
    "1D000aBYZANTINE MUSICAL SYMBOL PSILIdDASEIAdPERISPOMENIdOXEIA EKFONITIKONeDIPLI",
    "dVAREIA EKFONITIKONeDIPLIdKATHISTIdSYRMATIKIdPARAKLITIKIdYPOKRISISdYPOKRISIS DIPLIdKREMASTI",
    "dAPESO EKFONITIKONqEXO dTELEIAdKENTIMATAdAPOSTROFOSdAPOSTROFOS DIPLIdSYNEVMAdTHITA",
    "dOLIGON ARCHAIONqGORGON dPSILONdCHAMILONdVATHYdISON ARCHAIONqKENTIMA qKENTIMATA dSAXIMATA",
    "dPARICHONdSTAVROS APODEXIAdOXEIAI ARCHAIONqVAREIAI qAPODERMA dAPOTHEMAdKLASMAdREVMA",
    "dPIASMA ARCHAIONdTINAGMAdANATRICHISMAdSEISMAdSYNAGMA ARCHAIONeMETA STAVROUdOYRANISMA ARCHAION",
    "dTHEMAdLEMOIdDYOdTRIAdTESSERAdKRATIMATAdAPESO EXO NEOdFTHORA ARCHAIONdIMIFTHORA",
    "dTROMIKON ARCHAIONdKATAVA TROMIKONdPELASTONdPSIFISTONdKONTEVMAdCHOREVMA ARCHAIONdRAPISMA",
    "dPARAKALESMA ARCHAIONqPARAKLITIKI dICHADINdNANAdPETASMAdKONTEVMA ALLOqTROMIKON dSTRAGGISMATA",
    "dGRONTHISMATAdISON NEOqOLIGON qOXEIA dPETASTIdKOUFISMAdPETASTOKOUFISMAdKRATIMOKOUFISMA",
    "dPELASTON NEOdKENTIMATA NEO ANOqKENTIMA dYPSILIdAPOSTROFOS NEOdAPOSTROFOI SYNDESMOS NEO",
    "dYPORROIdKRATIMOYPORROONdELAFRONdCHAMILIdMIKRON ISONdVAREIA NEOqPIASMA qPSIFISTON dOMALON",
    "dANTIKENOMAdLYGISMAdPARAKLITIKI NEOqPARAKALESMA dETERON PARAKALESMAdKYLISMAdANTIKENOKYLISMA",
    "dTROMIKON NEOdEKSTREPTONdSYNAGMA NEOdSYRMAdCHOREVMA NEOdEPEGERMAdSEISMA NEOdXIRON KLASMA",
    "dTROMIKOPSIFISTONdPSIFISTOLYGISMAdTROMIKOLYGISMAdTROMIKOPARAKALESMAdPSIFISTOPARAKALESMA",
    "dTROMIKOSYNAGMAdPSIFISTOSYNAGMAdGORGOSYNTHETONdARGOSYNTHETONdETERON ARGOSYNTHETON",
    "dOYRANISMA NEOdTHEMATISMOS ESOeEXOdTHEMA APLOUNdTHES KAI APOTHESdKATAVASMAdENDOFONON",
    "dYFEN KATOeANOdSTAVROSdKLASMA ANOdDIPLI ARCHAIONqKRATIMA eALLOeNEOqAPODERMA dAPLIdDIPLI",
    "dTRIPLIdTETRAPLIdKORONISdLEIMMA ENOS CHRONOUeDYO CHRONONrTRION rTESSARON eIMISEOS CHRONOU",
    "dGORGON NEO ANOePARESTIGMENON ARISTERAfDEXIAdDIGORGONdDIGORGON PARESTIGMENON ARISTERA KATO",
    "gANOfDEXIAdTRIGORGONdARGONdIMIDIARGONdDIARGONdAGOGI POLI ARGIeARGOTERIeARGIeMETRIAeMESIeGORGI",
    "eGORGOTERIePOLI GORGIdMARTYRIA PROTOS ICHOSeALLI PROTOS ICHOSeDEYTEROS ICHOS",
    "eALLI DEYTEROS ICHOSeTRITOS ICHOSeTRIFONIASeTETARTOS ICHOSfLEGETOS ICHOSeLEGETOS ICHOS",
    "rPLAGIOS dISAKIA TELOUS ICHIMATOSqAPOSTROFOI dFANEROSIS TETRAFONIASeMONOFONIASeDIFONIAS",
    "dMARTYRIA VARYS ICHOSrPROTOVARYS ePLAGIOS TETARTOS ICHOSdGORTHMIKON N APLOUNfDIPLOUN",
    "dENARXIS KAI FTHORA VOUdIMIFONONdIMIFTHORONdFTHORA ARCHAION DEYTEROU ICHOUeDIATONIKI PAfNANA",
    "eNAOS ICHOSeDIATONIKI DIeSKLIRON DIATONON DIeDIATONIKI KEfZOfNI KATOgANO",
    "eMALAKON CHROMA DIFONIASgMONOFONIASdFHTORA SKLIRON CHROMA VASISdFTHORA SKLIRON CHROMA SYNAFI",
    "eNENANOdCHROA ZYGOSeKLITONeSPATHIdFTHORA I YFESIS TETARTIMORIONeENARMONIOS ANTIFONIA",
    "dYFESIS TRITIMORIONqDIESIS eTETARTIMORIONeAPLI DYO DODEKATArMONOGRAMMOS TESSERA ",
    "rDIGRAMMOS EX rTRIGRAMMOS OKTO qYFESIS APLI DYO rMONOGRAMMOS TESSERA rDIGRAMMOS EX ",
    "rTRIGRAMMOS OKTO dGENIKI DIESISeYFESISdDIASTOLI APLI MIKRIfMEGALIeDIPLIeTHESEOSqSIMANSIS ",
    "eTHESEOS DISIMOUfTRISIMOUfTETRASIMOUeARSEOSeARSEOS DISIMOUfTRISIMOUfTETRASIMOUdDIGRAMMA GG",
    "dDIFTOGGOS OUdSTIGMAdARKTIKO PAeVOUeGAeDIeKEeZOeNIdKENTIMATA NEO MESOqKENTIMA ",
    "dKENTIMATA NEO KATOqKENTIMA dKLASMA KATOdGORGON NEO KATO",
    "1D100aMUSICAL SYMBOL SINGLE BARLINEpDOUBLE pFINAL cREVERSE FINAL BARLINEcDASHED BARLINE",
    "pSHORT cLEFT REPEAT SIGNpRIGHT cREPEAT DOTScDAL SEGNOcDA CAPOcSEGNOcCODAcREPEATED FIGURE-1e2",
    "e3cFERMATAcFERMATA BELOWcBREATH MARKcCAESURAcBRACEcBRACKETcONE-LINE STAFFpTWO-pTHREE-pFOUR-",
    "pFIVE-pSIX-dSTRING FRETBOARDpFOUR-cG CLEFdCLEF OTTAVA ALTAfBASSAcC CLEFpF dCLEF OTTAVA ALTA",
    "fBASSAcDRUM CLEF-1e2",
    "1D129cMULTIPLE MEASURE RESTcDOUBLE SHARPdFLATcFLAT UPdDOWNcNATURAL UPdDOWNcSHARP UPdDOWN",
    "cQUARTER TONE SHARPeFLATcCOMMON TIMEpCUT cOTTAVA ALTAdBASSAcQUINDICESIMA ALTAdBASSA",
    "cMULTI RESTpWHOLE pHALF pQUARTER pEIGHTH pSIXTEENTH cTHIRTY-SECOND RESTpSIXTY-FOURTH ",
    "cONE HUNDRED TWENTY-EIGHTH RESTcX NOTEHEADpPLUS cCIRCLE X NOTEHEADcSQUARE NOTEHEAD WHITE",
    "eBLACKcTRIANGLE NOTEHEAD UP WHITEfBLACKeLEFT WHITEfBLACKeRIGHT WHITEfBLACKeDOWN WHITEfBLACK",
    "eUP RIGHT WHITEgBLACKcMOON NOTEHEAD WHITEeBLACKcTRIANGLE-ROUND NOTEHEAD DOWN WHITEgBLACK",
    "cPARENTHESIS NOTEHEADpVOID cNOTEHEAD BLACKcNULL NOTEHEADcCLUSTER NOTEHEAD WHITEeBLACKcBREVE",
    "cWHOLE NOTEpHALF pQUARTER pEIGHTH pSIXTEENTH cTHIRTY-SECOND NOTEpSIXTY-FOURTH ",
    "cONE HUNDRED TWENTY-EIGHTH NOTEcCOMBINING STEMdSPRECHGESANG STEMdTREMOLO-1e2e3",
    "cFINGERED TREMOLO-1e2e3cCOMBINING AUGMENTATION DOTdFLAG-1e2e3e4e5cBEGIN BEAMpEND cBEGIN TIE",
    "pEND cBEGIN SLURpEND cBEGIN PHRASEpEND cCOMBINING ACCENTdSTACCATOdTENUTOdSTACCATISSIMO",
    "dMARCATOdMARCATO-STACCATOqACCENT-dLOUREcARPEGGIATO UPdDOWNcCOMBINING DOITdRIPdFLIPdSMEARdBEND",
    "dDOUBLE TONGUEqTRIPLE cRINFORZANDOcSUBITOcZcPIANOcMEZZOcFORTEcCRESCENDOcDECRESCENDO",
    "cGRACE NOTE SLASHeNO SLASHcTRcTURNcINVERTED TURNcTURN SLASHdUPcORNAMENT STROKE-1e2e3e4e5e6e7",
    "e8e9e10e11cHAUPTSTIMMEcNEBENSTIMMEcEND OF STIMMEcDEGREE SLASHcCOMBINING DOWN BOWqUP dHARMONIC",
    "dSNAP PIZZICATOcPEDAL MARKdUP MARKpHALF PEDAL cGLISSANDO UPdDOWNcWITH FINGERNAILScDAMP",
    "cDAMP ALLcMAXIMAcLONGAcBREVIScSEMIBREVIS WHITEdBLACKcMINIMAcMINIMA BLACKcSEMIMINIMA WHITE",
    "dBLACKcFUSA WHITEdBLACKcLONGA PERFECTA RESTqIMPERFECTA cBREVIS RESTpSEMIBREVIS pMINIMA ",
    "pSEMIMINIMA cTEMPUS PERFECTUM CUM PROLATIONE PERFECTAgIMPERFECTAgPERFECTA DIMINUTION-1",
    "dIMPERFECTUM CUM PROLATIONE PERFECTAgIMPERFECTAgIMPERFECTA DIMINUTION-1i2i3cCROIX",
    "cGREGORIAN C CLEFqF cSQUARE BcVIRGAcPODATUScCLIVIScSCANDICUScCLIMACUScTORCULUScPORRECTUS",
    "cPORRECTUS FLEXUSpSCANDICUS cTORCULUS RESUPINUScPES SUBPUNCTIScKIEVAN C CLEFdEND OF PIECE",
    "dFINAL NOTEdRECITATIVE MARKdWHOLE NOTEqHALF dQUARTER NOTE STEM DOWNgUPdEIGHTH NOTE STEM DOWN",
    "gUPdFLAT SIGNcSORIcKORON",
    "1D200aGREEK VOCAL NOTATION SYMBOL-1e2e3e4e5e6e7e8e9e10e11e12e13e14e15e16e17e18e19e20e21e22e23",
    "e24e50e51e52e53e54bINSTRUMENTAL NOTATION SYMBOL-1e2e4e5e7e8e11e12e13e14e17e18e19e23e24e25e26",
    "e27e29e30e32e36e37e38e39e40e42e43e45e47e48e49e50e51e52e53e54aCOMBINING GREEK MUSICAL TRISEME",
    "dTETRASEMEdPENTASEMEaGREEK MUSICAL LEIMMA",
    "1D2E0aMAYAN NUMERAL ZEROcONEcTWOcTHREEcFOURcFIVEcSIXcSEVENcEIGHTcNINEcTENcELEVENcTWELVE",
    "cTHIRTEENcFOURTEENcFIFTEENcSIXTEENcSEVENTEENcEIGHTEENcNINETEEN",
    "1D300aMONOGRAM FOR EARTHaDIGRAM FOR HEAVENLY EARTHpHUMAN cEARTHLY HEAVENdHUMANcEARTH",
    "aTETRAGRAM FOR CENTREcFULL CIRCLEcMIREDcBARRIERcKEEPING SMALLcCONTRARIETYcASCENTcOPPOSITION",
    "cBRANCHING OUTcDEFECTIVENESS OR DISTORTIONcDIVERGENCEcYOUTHFULNESScINCREASEcPENETRATIONcREACH",
    "cCONTACTcHOLDING BACKcWAITINGcFOLLOWINGcADVANCEcRELEASEcRESISTANCEcEASEcJOYcCONTENTION",
    "cENDEAVOURcDUTIEScCHANGEcDECISIVENESScBOLD RESOLUTIONcPACKINGcLEGIONcCLOSENESScKINSHIP",
    "cGATHERINGcSTRENGTHcPURITYcFULLNESScRESIDENCEcLAW OR MODELcRESPONSEcGOING TO MEETcENCOUNTERS",
    "cSTOVEcGREATNESScENLARGEMENTcPATTERNcRITUALcFLIGHTcVASTNESS OR WASTINGcCONSTANCYcMEASURE",
    "cETERNITYcUNITYcDIMINISHMENTcCLOSED MOUTHcGUARDEDNESScGATHERING INcMASSINGcACCUMULATION",
    "cEMBELLISHMENTcDOUBTcWATCHcSINKINGcINNERcDEPARTUREcDARKENINGcDIMMINGcEXHAUSTIONcSEVERANCE",
    "cSTOPPAGEcHARDNESScCOMPLETIONcCLOSUREcFAILUREcAGGRAVATIONcCOMPLIANCEcON THE VERGE",
    "cDIFFICULTIEScLABOURINGcFOSTERING",
    "1D360aCOUNTING ROD UNIT DIGIT ONEeTWOeTHREEeFOUReFIVEeSIXeSEVENeEIGHTeNINEcTENS DIGIT ONEeTWO",
    "eTHREEeFOUReFIVEeSIXeSEVENeEIGHTeNINEaIDEOGRAPHIC TALLY MARK ONEdTWOdTHREEdFOURdFIVE",
    "aTALLY MARK ONEcFIVE",
    "1D400aMATHEMATICAL BOLD CAPITAL AdBdCdDdEdFdGdHdIdJdKdLdMdNdOdPdQdRdSdTdUdVdWdXdYdZcSMALL AdB",
    "dCdDdEdFdGdHdIdJdKdLdMdNdOdPdQdRdSdTdUdVdWdXdYdZbITALIC CAPITAL AdBdCdDdEdFdGdHdIdJdKdLdMdNdO",
    "dPdQdRdSdTdUdVdWdXdYdZcSMALL AdBdCdDdEdFdG",
    "1D456dIdJdKdLdMdNdOdPdQdRdSdTdUdVdWdXdYdZbBOLD ITALIC CAPITAL AeBeCeDeEeFeGeHeIeJeKeLeMeNeOeP",
    "eQeReSeTeUeVeWeXeYeZdSMALL AeBeCeDeEeFeGeHeIeJeKeLeMeNeOePeQeReSeTeUeVeWeXeYeZ",
    "bSCRIPT CAPITAL A", "1D49EdCdD", "1D4A2dG", "1D4A5dJdK", "1D4A9dNdOdPdQ",
    "1D4AEdSdTdUdVdWdXdYdZcSMALL AdBdCdD", "1D4BBdF", "1D4BDdHdIdJdKdLdMdN",
    "1D4C5dPdQdRdSdTdUdVdWdXdYdZbBOLD SCRIPT CAPITAL AeBeCeDeEeFeGeHeIeJeKeLeMeNeOePeQeReSeTeUeVeW",
    "eXeYeZdSMALL AeBeCeDeEeFeGeHeIeJeKeLeMeNeOePeQeReSeTeUeVeWeXeYeZbFRAKTUR CAPITAL AdB",
    "1D507dDdEdFdG", "1D50DdJdKdLdMdNdOdPdQ", "1D516dSdTdUdVdWdXdY",
    "1D51EcSMALL AdBdCdDdEdFdGdHdIdJdKdLdMdNdOdPdQdRdSdTdUdVdWdXdYdZbDOUBLE-STRUCK CAPITAL AeB",
    "1D53BeDeEeFeG", "1D540eIeJeKeLeM", "1D546eO", "1D54AeSeTeUeVeWeXeY",
    "1D552dSMALL AeBeCeDeEeFeGeHeIeJeKeLeMeNeOePeQeReSeTeUeVeWeXeYeZbBOLD FRAKTUR CAPITAL AeBeCeD",
    "eEeFeGeHeIeJeKeLeMeNeOePeQeReSeTeUeVeWeXeYeZdSMALL AeBeCeDeEeFeGeHeIeJeKeLeMeNeOePeQeReSeTeU",
    "eVeWeXeYeZbSANS-SERIF CAPITAL AeBeCeDeEeFeGeHeIeJeKeLeMeNeOePeQeReSeTeUeVeWeXeYeZdSMALL AeBeC",
    "eDeEeFeGeHeIeJeKeLeMeNeOePeQeReSeTeUeVeWeXeYeZdBOLD CAPITAL AfBfCfDfEfFfGfHfIfJfKfLfMfNfOfPfQ",
    "fRfSfTfUfVfWfXfYfZeSMALL AfBfCfDfEfFfGfHfIfJfKfLfMfNfOfPfQfRfSfTfUfVfWfXfYfZdITALIC CAPITAL A",
    "fBfCfDfEfFfGfHfIfJfKfLfMfNfOfPfQfRfSfTfUfVfWfXfYfZeSMALL AfBfCfDfEfFfGfHfIfJfKfLfMfNfOfPfQfR",
    "fSfTfUfVfWfXfYfZdBOLD ITALIC CAPITAL AgBgCgDgEgFgGgHgIgJgKgLgMgNgOgPgQgRgSgTgUgVgWgXgYgZ",
    "fSMALL AgBgCgDgEgFgGgHgIgJgKgLgMgNgOgPgQgRgSgTgUgVgWgXgYgZbMONOSPACE CAPITAL AdBdCdDdEdFdGdH",
    "dIdJdKdLdMdNdOdPdQdRdSdTdUdVdWdXdYdZcSMALL AdBdCdDdEdFdGdHdIdJdKdLdMdNdOdPdQdRdSdTdUdVdWdXdY",
    "dZbITALIC SMALL DOTLESS IeJ",
    "1D6A8bBOLD CAPITAL ALPHAdBETAdGAMMAdDELTAdEPSILONdZETAdETAdTHETAdIOTAdKAPPAdLAMDAdMUdNUdXI",
    "dOMICRONdPIdRHOdTHETA SYMBOLdSIGMAdTAUdUPSILONdPHIdCHIdPSIdOMEGAcNABLAcSMALL ALPHAdBETAdGAMMA",
    "dDELTAdEPSILONdZETAdETAdTHETAdIOTAdKAPPAdLAMDAdMUdNUdXIdOMICRONdPIdRHOdFINAL SIGMAdSIGMAdTAU",
    "dUPSILONdPHIdCHIdPSIdOMEGAcPARTIAL DIFFERENTIALcEPSILON SYMBOLpTHETA pKAPPA pPHI pRHO pPI ",
    "bITALIC CAPITAL ALPHAdBETAdGAMMAdDELTAdEPSILONdZETAdETAdTHETAdIOTAdKAPPAdLAMDAdMUdNUdXI",
    "dOMICRONdPIdRHOdTHETA SYMBOLdSIGMAdTAUdUPSILONdPHIdCHIdPSIdOMEGAcNABLAcSMALL ALPHAdBETAdGAMMA",
    "dDELTAdEPSILONdZETAdETAdTHETAdIOTAdKAPPAdLAMDAdMUdNUdXIdOMICRONdPIdRHOdFINAL SIGMAdSIGMAdTAU",
    "dUPSILONdPHIdCHIdPSIdOMEGAcPARTIAL DIFFERENTIALcEPSILON SYMBOLpTHETA pKAPPA pPHI pRHO pPI ",
    "bBOLD ITALIC CAPITAL ALPHAeBETAeGAMMAeDELTAeEPSILONeZETAeETAeTHETAeIOTAeKAPPAeLAMDAeMUeNUeXI",
    "eOMICRONePIeRHOeTHETA SYMBOLeSIGMAeTAUeUPSILONePHIeCHIePSIeOMEGAdNABLAdSMALL ALPHAeBETAeGAMMA",
    "eDELTAeEPSILONeZETAeETAeTHETAeIOTAeKAPPAeLAMDAeMUeNUeXIeOMICRONePIeRHOeFINAL SIGMAeSIGMAeTAU",
    "eUPSILONePHIeCHIePSIeOMEGAdPARTIAL DIFFERENTIALdEPSILON SYMBOLqTHETA qKAPPA qPHI qRHO qPI ",
    "bSANS-SERIF BOLD CAPITAL ALPHAfBETAfGAMMAfDELTAfEPSILONfZETAfETAfTHETAfIOTAfKAPPAfLAMDAfMUfNU",
    "fXIfOMICRONfPIfRHOfTHETA SYMBOLfSIGMAfTAUfUPSILONfPHIfCHIfPSIfOMEGAeNABLAeSMALL ALPHAfBETA",
    "fGAMMAfDELTAfEPSILONfZETAfETAfTHETAfIOTAfKAPPAfLAMDAfMUfNUfXIfOMICRONfPIfRHOfFINAL SIGMA",
    "fSIGMAfTAUfUPSILONfPHIfCHIfPSIfOMEGAePARTIAL DIFFERENTIALeEPSILON SYMBOLrTHETA rKAPPA rPHI ",
    "rRHO rPI eITALIC CAPITAL ALPHAgBETAgGAMMAgDELTAgEPSILONgZETAgETAgTHETAgIOTAgKAPPAgLAMDAgMUgNU",
    "gXIgOMICRONgPIgRHOgTHETA SYMBOLgSIGMAgTAUgUPSILONgPHIgCHIgPSIgOMEGAfNABLAfSMALL ALPHAgBETA",
    "gGAMMAgDELTAgEPSILONgZETAgETAgTHETAgIOTAgKAPPAgLAMDAgMUgNUgXIgOMICRONgPIgRHOgFINAL SIGMA",
    "gSIGMAgTAUgUPSILONgPHIgCHIgPSIgOMEGAfPARTIAL DIFFERENTIALfEPSILON SYMBOLsTHETA sKAPPA sPHI ",
    "sRHO sPI bBOLD CAPITAL DIGAMMApSMALL ",
    "1D7CEcDIGIT ZEROdONEdTWOdTHREEdFOURdFIVEdSIXdSEVENdEIGHTdNINEbDOUBLE-STRUCK DIGIT ZEROeONE",
    "eTWOeTHREEeFOUReFIVEeSIXeSEVENeEIGHTeNINEbSANS-SERIF DIGIT ZEROeONEeTWOeTHREEeFOUReFIVEeSIX",
    "eSEVENeEIGHTeNINEdBOLD DIGIT ZEROfONEfTWOfTHREEfFOURfFIVEfSIXfSEVENfEIGHTfNINE",
    "bMONOSPACE DIGIT ZEROdONEdTWOdTHREEdFOURdFIVEdSIXdSEVENdEIGHTdNINE",
    "aSIGNWRITING HAND-FIST INDEXpCIRCLE pCUP pOVAL pHINGE pANGLE cFIST INDEX BENTpCIRCLE ",
    "cFIST THUMB UNDER INDEX BENTdINDEX RAISED KNUCKLEeCUPPEDeHINGEDeHINGED LOWcCIRCLE INDEX HINGE",
    "cFIST INDEX MIDDLEpCIRCLE cFIST INDEX MIDDLE BENTfRAISED KNUCKLESfHINGEDeUP MIDDLE HINGED",
    "eHINGED MIDDLE UPeMIDDLE CONJOINEDfCONJOINED INDEX BENTtMIDDLE gCUPPEDgHINGEDfCROSSEDpCIRCLE ",
    "cFIST MIDDLE BENT OVER INDEXdINDEX BENT OVER MIDDLEeMIDDLE THUMBpCIRCLE ",
    "cFIST INDEX MIDDLE STRAIGHT THUMB BENTfBENT THUMB STRAIGHTfTHUMB BENT",
    "fHINGED SPREAD THUMB SIDErUP MIDDLE HINGED iCONJOINEDeHINGED MIDDLE UP THUMB SIDE",
    "eMIDDLE UP SPREAD THUMB FORWARDfTHUMB CUPPEDgCIRCLEDgHOOKEDgHINGED",
    "dTHUMB BETWEEN INDEX MIDDLE STRAIGHTdINDEX MIDDLE CONJOINED THUMB SIDEhSIDE CONJOINEDiBENT",
    "dMIDDLE THUMB HOOKED INDEX UPqINDEX THUMB HOOKED MIDDLE eMIDDLE CONJOINED HINGED THUMB SIDE",
    "fCROSSED THUMB SIDEfCONJOINED THUMB FORWARDgCUPPED THUMB FORWARDdMIDDLE THUMB CUPPED INDEX UP",
    "qINDEX THUMB CUPPED MIDDLE qMIDDLE THUMB CIRCLED INDEX hHINGED",
    "dINDEX THUMB ANGLED OUT MIDDLE UPtIN fCIRCLED MIDDLE UPeMIDDLE THUMB CONJOINED HINGED",
    "gANGLED OUTgANGLEDdMIDDLE THUMB ANGLED OUT INDEX UPiCROSSEDgINDEX UP",
    "dINDEX THUMB HOOKED MIDDLE HINGEDcFLAT FOUR FINGERSeFINGERS BENTfHINGEDfCONJOINED",
    "fCONJOINED SPLITcCLAW FOUR FINGERS CONJOINEDcFIST FOUR FINGERS CONJOINED BENT",
    "cHINGE FOUR FINGERS CONJOINEDcFLAT FIVE FINGERS SPREADdHEEL FIVE FINGERS SPREAD",
    "dFIVE FINGERS SPREAD FOUR BENTdHEEL FIVE FINGERS SPREAD FOUR BENTdFIVE FINGERS SPREAD BENT",
    "dHEEL FIVE FINGERS SPREAD BENTdFIVE FINGERS SPREAD THUMB FORWARDcCUP FIVE FINGERS SPREAD",
    "fSPREAD OPENpHINGE cOVAL FIVE FINGERS SPREADcFLAT FIVE FINGERS SPREAD HINGED",
    "gHINGED THUMB SIDEhNO THUMBcFLATcFLAT BETWEEN PALM FACINGSdHEELdTHUMB SIDEdHEEL THUMB SIDE",
    "dTHUMB BENTeFORWARDdSPLIT INDEX THUMB SIDEeCENTREeCENTRE THUMB SIDEgSIDE BENTeLITTLEcCLAW",
    "cCLAW THUMB SIDEdNO THUMBdTHUMB FORWARDcHOOK CURLICUEcHOOKcCUP OPENcCUPcCUP OPEN THUMB SIDE",
    "dTHUMB SIDEdOPEN NO THUMBdNO THUMBdOPEN THUMB FORWARDdTHUMB FORWARDcCURLICUE OPENcCURLICUE",
    "cCIRCLEcOVALcOVAL THUMB SIDEdNO THUMBdTHUMB FORWARDcHINGE OPENdOPEN THUMB FORWARDcHINGE",
    "cHINGE SMALLdOPEN THUMB SIDEdTHUMB SIDEdOPEN NO THUMBdNO THUMBdTHUMB SIDE TOUCHING INDEX",
    "eBETWEEN MIDDLE RINGcANGLEcFIST INDEX MIDDLE RINGpCIRCLE pHINGE pANGLE cHINGE LITTLE",
    "cFIST INDEX MIDDLE RING BENTgCONJOINEDpHINGE cFIST LITTLE DOWNeDOWN RIPPLE STRAIGHTgCURVED",
    "fOTHERS CIRCLEDeUPdTHUMB UNDER LITTLE UPcCIRCLE LITTLE UPpOVAL pANGLE ",
    "cFIST LITTLE RAISED KNUCKLEeBENTeTOUCHES THUMBeTHUMBpHINGE cFIST LITTLE INDEX THUMBpHINGE ",
    "cANGLE LITTLE INDEX THUMB INDEX THUMB OUThTHUMBcFIST LITTLE INDEXpCIRCLE pHINGE pANGLE ",
    "cFIST INDEX MIDDLE LITTLEpCIRCLE pHINGE dRINGcANGLE INDEX MIDDLE LITTLE",
    "cFIST INDEX MIDDLE CROSS LITTLEpCIRCLE cFIST RING DOWN",
    "cHINGE RING DOWN INDEX THUMB HOOK MIDDLEcANGLE RING DOWN MIDDLE THUMB INDEX CROSS",
    "cFIST RING UPeRAISED KNUCKLEeLITTLEpCIRCLE pOVAL pANGLE cFIST RING MIDDLEeMIDDLE CONJOINED",
    "fRAISED KNUCKLESeINDEXeTHUMBpHOOK cFIST INDEX RING LITTLEpCIRCLE ",
    "cCURLICUE INDEX RING LITTLE ONcHOOK INDEX RING LITTLE OUTgINgUNDERcCUP INDEX RING LITTLE",
    "pHINGE cANGLE INDEX RING LITTLE OUTfLITTLEcFIST MIDDLE DOWNcHINGE MIDDLEcFIST MIDDLE UP",
    "pCIRCLE cFIST MIDDLE RAISED KNUCKLEeUP THUMB SIDEcHOOK MIDDLE THUMBcFIST MIDDLE THUMB LITTLE",
    "eLITTLEeRING LITTLEpCIRCLE cCURLICUE MIDDLE RING LITTLE ONcCUP MIDDLE RING LITTLEpHINGE ",
    "cANGLE MIDDLE RING LITTLE OUTgINfLITTLEcCIRCLE MIDDLE RING LITTLE BENT",
    "cCLAW MIDDLE RING LITTLE CONJOINEDgCONJOINED SIDEcHOOK MIDDLE RING LITTLE CONJOINED OUThIN",
    "gCONJOINEDcHINGE INDEX HINGEDcFIST INDEX THUMB SIDEpHINGE ",
    "cFIST INDEX THUMB SIDE THUMB DIAGONALhCONJOINEDhBENTtINDEX tBOTH gINDEX HINGE",
    "fFORWARD INDEX STRAIGHThBENTfHOOKfCURLICUEfCURVE THUMB INSIDEpCLAW ",
    "cFIST INDEX THUMB CURVE THUMB UNDERfCIRCLEcCUP INDEX THUMBeTHUMB OPENpHINGE fLARGEeTHUMB",
    "eTHUMB SMALLcANGLE INDEX THUMB OUTfINeTHUMBcFIST THUMBdTHUMB HEELeSIDE DIAGONALfCONJOINED",
    "fBENTeFORWARDeBETWEEN INDEX MIDDLEfMIDDLE RINGfRING LITTLEeUNDER TWO FINGERSrOVER ",
    "rUNDER THREE sFOUR eOVER FOUR RAISED KNUCKLEScFISTcFIST HEELbTOUCH SINGLEcMULTIPLEcBETWEEN",
    "bGRASP SINGLEcMULTIPLEcBETWEENbSTRIKE SINGLEcMULTIPLEcBETWEENbBRUSH SINGLEcMULTIPLEcBETWEEN",
    "bRUB SINGLEcMULTIPLEcBETWEENbSURFACE SYMBOLScBETWEENbSQUEEZE LARGE SINGLEpSMALL ",
    "cLARGE MULTIPLEpSMALL cSEQUENTIALbFLICK LARGE SINGLEpSMALL cLARGE MULTIPLEpSMALL cSEQUENTIAL",
    "bSQUEEZE FLICK ALTERNATINGbMOVEMENT-HINGE UP DOWN LARGEfSMALLeSEQUENTIALqDOWN ",
    "dUP DOWN ALTERNATING LARGEgSMALLdSIDE TO SIDE SCISSORScWALLPLANE FINGER CONTACTpFLOORPLANE ",
    "cWALLPLANE SINGLE STRAIGHT SMALLfMEDIUMfLARGEfLARGESTeWRIST FLEXdDOUBLE STRAIGHTeWRIST FLEX",
    "eALTERNATINGeALTERNATING WRIST FLEXdCROSSdTRIPLE STRAIGHT MOVEMENTeWRIST FLEXeALTERNATING",
    "eALTERNATING WRIST FLEXdBEND SMALLeMEDIUMeLARGEdCORNER SMALLeMEDIUMeLARGEeROTATION",
    "dCHECK SMALLeMEDIUMeLARGEdBOX SMALLeMEDIUMeLARGEdZIGZAG SMALLeMEDIUMeLARGEdPEAKS SMALLeMEDIUM",
    "eLARGEbTRAVEL-WALLPLANE ROTATION-WALLPLANE SINGLEfDOUBLEfALTERNATINGeFLOORPLANE SINGLEfDOUBLE",
    "fALTERNATINGdSHAKINGdARM SPIRAL SINGLEfDOUBLEfTRIPLEbMOVEMENT-DIAGONAL AWAY SMALLeMEDIUM",
    "eLARGEeLARGESTdTOWARDS SMALLeMEDIUMeLARGEeLARGESTdBETWEEN AWAY SMALLfMEDIUMfLARGEfLARGEST",
    "eTOWARDS SMALLfMEDIUMfLARGEfLARGESTcFLOORPLANE SINGLE STRAIGHT SMALLfMEDIUMfLARGEfLARGEST",
    "eWRIST FLEXdDOUBLE STRAIGHTeWRIST FLEXeALTERNATINGeALTERNATING WRIST FLEXdCROSS",
    "dTRIPLE STRAIGHT MOVEMENTeWRIST FLEXeALTERNATING MOVEMENTfWRIST FLEXdBENDdCORNER SMALLeMEDIUM",
    "eLARGEdCHECKdBOX SMALLeMEDIUMeLARGEdZIGZAG SMALLeMEDIUMeLARGEdPEAKS SMALLeMEDIUMeLARGE",
    "bTRAVEL-FLOORPLANE ROTATION-FLOORPLANE SINGLEfDOUBLEfALTERNATINGeWALLPLANE SINGLEfDOUBLE",
    "fALTERNATINGdSHAKINGbMOVEMENT-WALLPLANE CURVE QUARTER SMALLfMEDIUMfLARGEfLARGEST",
    "eHALF-CIRCLE SMALLgMEDIUMgLARGEgLARGESTeTHREE-QUARTER CIRCLE SMALLhMEDIUMdHUMP SMALLeMEDIUM",
    "eLARGEdLOOP SMALLeMEDIUMeLARGEeSMALL DOUBLEdWAVE CURVE DOUBLE SMALLgMEDIUMgLARGEfTRIPLE SMALL",
    "gMEDIUMgLARGEdCURVE THEN STRAIGHTdCURVED CROSS SMALLfMEDIUMbROTATION-WALLPLANE SINGLEdDOUBLE",
    "dALTERNATEbMOVEMENT-WALLPLANE SHAKINGdCURVE HITTING FRONT WALLqHUMP qLOOP qWAVE ",
    "oROTATION-WALLPLANE SINGLE qDOUBLE qALTERNATING bMOVEMENT-WALLPLANE CURVE HITTING CHESTqHUMP ",
    "qLOOP qWAVE oROTATION-WALLPLANE SINGLE qDOUBLE qALTERNATING ",
    "bMOVEMENT-WALLPLANE WAVE DIAGONAL PATH SMALLgMEDIUMgLARGE",
    "cFLOORPLANE CURVE HITTING CEILING SMALLgLARGEdHUMP HITTING CEILING SMALL DOUBLEtLARGE ",
    "gSMALL TRIPLEtLARGE dLOOP HITTING CEILING SMALL SINGLEtLARGE gSMALL DOUBLEtLARGE ",
    "dWAVE HITTING CEILING SMALLgLARGEbROTATION-FLOORPLANE SINGLE HITTING CEILINGqDOUBLE ",
    "qALTERNATING bMOVEMENT-FLOORPLANE CURVE HITTING FLOOR SMALLgLARGE",
    "dHUMP HITTING FLOOR SMALL DOUBLEtLARGE gTRIPLE SMALL TRIPLEuLARGE ",
    "dLOOP HITTING FLOOR SMALL SINGLEtLARGE gSMALL DOUBLEtLARGE dWAVE HITTING FLOOR SMALLgLARGE",
    "bROTATION-FLOORPLANE SINGLE HITTING FLOORqDOUBLE qALTERNATING ",
    "bMOVEMENT-FLOORPLANE CURVE SMALLeMEDIUMeLARGEeLARGESTeCOMBINEDdHUMP SMALLqLOOP dWAVE SNAKE",
    "eSMALLeLARGEbROTATION-FLOORPLANE SINGLEdDOUBLEdALTERNATING",
    "bMOVEMENT-FLOORPLANE SHAKING PARALLELcWALLPLANE ARM CIRCLE SMALL SINGLEsMEDIUM fSMALL DOUBLE",
    "sMEDIUM cFLOORPLANE ARM CIRCLE HITTING WALL SMALL SINGLEuMEDIUM uLARGE hSMALL DOUBLEuMEDIUM ",
    "uLARGE cWALLPLANE WRIST CIRCLE FRONT SINGLEgDOUBLE",
    "cFLOORPLANE WRIST CIRCLE HITTING WALL SINGLEhDOUBLEcWALLPLANE FINGER CIRCLES SINGLEfDOUBLE",
    "cFLOORPLANE FINGER CIRCLES HITTING WALL SINGLEhDOUBLEbDYNAMIC ARROWHEAD SMALLdLARGEcFASTcSLOW",
    "cTENSEcRELAXEDcSIMULTANEOUScSIMULTANEOUS ALTERNATINGcEVERY OTHER TIMEcGRADUALbHEADbHEAD RIM",
    "cMOVEMENT-WALLPLANE STRAIGHTeTILTdFLOORPLANE STRAIGHTdWALLPLANE CURVEqFLOORPLANE ",
    "cMOVEMENT CIRCLEbFACE DIRECTION POSITION NOSE FORWARD TILTINGfUP OR DOWNhDOWN TILTING",
    "bEYEBROWS STRAIGHT UPdNEUTRALdDOWNbDREAMY EYEBROWS NEUTRAL DOWNdDOWN NEUTRALqUP dNEUTRAL UP",
    "bFOREHEAD NEUTRALcCONTACTcWRINKLEDbEYES OPENcSQUEEZEDcCLOSEDbEYE BLINK SINGLEdMULTIPLE",
    "bEYES HALF OPENpWIDE cHALF CLOSEDcWIDENING MOVEMENTbEYE WINKbEYELASHES UPcDOWNcFLUTTERING",
    "bEYEGAZE-WALLPLANE STRAIGHTdSTRAIGHT DOUBLEeALTERNATINGcFLOORPLANE STRAIGHTdSTRAIGHT DOUBLE",
    "eALTERNATINGcWALLPLANE CURVEDpFLOORPLANE cWALLPLANE CIRCLINGbCHEEKS PUFFEDcNEUTRALcSUCKED",
    "bTENSE CHEEKS HIGHdMIDDLEdLOWbEARSbNOSE NEUTRALcCONTACTcWRINKLEScWIGGLESbAIR BLOWING OUT",
    "cSUCKING INcBLOW SMALL ROTATIONSpSUCK bBREATH INHALEcEXHALEbMOUTH CLOSED NEUTRALdFORWARD",
    "dCONTACTcSMILEcSMILE WRINKLEDdOPENcFROWNcFROWN WRINKLEDdOPENcOPEN CIRCLEdFORWARDdWRINKLED",
    "dOVALdOVAL WRINKLEDeYAWNdRECTANGLEdRECTANGLE WRINKLEDeYAWNcKISScKISS FORWARDdWRINKLEDcTENSE",
    "cTENSE FORWARDdSUCKEDbLIPS PRESSED TOGETHERbLIP LOWER OVER UPPERcUPPER OVER LOWER",
    "bMOUTH CORNERScWRINKLES SINGLEdDOUBLEbTONGUE STICKING OUT FARcLICKING LIPScTIP BETWEEN LIPS",
    "dTOUCHING INSIDE MOUTHcINSIDE MOUTH RELAXEDcMOVES AGAINST CHEEKcCENTRE STICKING OUT",
    "dINSIDE MOUTHbTEETHbTEETH MOVEMENTcON TONGUEdTONGUE MOVEMENTdLIPSdLIPS MOVEMENTcBITE LIPS",
    "bMOVEMENT-WALLPLANE JAWpFLOORPLANE bNECKbHAIRbEXCITEMENTbSHOULDER HIP SPINEdPOSITIONS",
    "bWALLPLANE SHOULDER HIP MOVEoFLOORPLANE bSHOULDER TILTING FROM WAIST",
    "bTORSO-WALLPLANE STRAIGHT STRETCHdCURVED BENDcFLOORPLANE TWISTING",
    "bUPPER BODY TILTING FROM HIP JOINTSbLIMB COMBINATIONcLENGTH-1d2d3d4d5d6d7bFINGER",
    "bLOCATION-WALLPLANE SPACEpFLOORPLANE bLOCATION HEIGHTcWIDTHcDEPTHcHEAD NECKcTORSO",
    "cLIMBS DIGITSbCOMMAbFULL STOPbSEMICOLONbCOLONbPARENTHESIS", "1DA9BbFILL MODIFIER-2d3d4d5d6",
    "1DAA1bROTATION MODIFIER-2d3d4d5d6d7d8d9d10d11d12d13d14d15d16",
    "1DF00aLATIN SMALL LETTER FENG DIGRAPH WITH TRILLdREVERSED SCRIPT G",
    "oLETTER SMALL CAPITAL TURNED bSMALL LETTER REVERSED KbLETTER SMALL CAPITAL L WITH BELT",
    "bSMALL LETTER LEZH WITH RETROFLEX HOOKdTURNED Y WITH BELTdREVERSED ENG",
    "dTURNED R WITH LONG LEG AND RETROFLEX HOOKdT WITH HOOK AND RETROFLEX HOOK",
    "bLETTER RETROFLEX CLICK WITH RETROFLEX HOOKbSMALL LETTER ESH WITH DOUBLE BARgBAR AND CURL",
    "dTURNED T WITH CURLoLETTER INVERTED GLOTTAL STOP cSTRETCHED C WITH CURL",
    "cSMALL CAPITAL TURNED KbSMALL LETTER L WITH FISHHOOKdDEZH DIGRAPH WITH PALATAL HOOK",
    "dL WITH BELT AND PALATAL HOOKdENG WITH PALATAL HOOKdTURNED R WITH PALATAL HOOK",
    "dR WITH FISHHOOK AND PALATAL HOOKdTESH DIGRAPH WITH PALATAL HOOKdEZH WITH PALATAL HOOK",
    "dDEZH DIGRAPH WITH RETROFLEX HOOKdI WITH STROKE AND RETROFLEX HOOKdO WITH RETROFLEX HOOK",
    "dTESH DIGRAPH WITH RETROFLEX HOOKdC WITH RETROFLEX HOOKdS WITH CURL",
    "1E000aCOMBINING GLAGOLITIC LETTER AZUdBUKYdVEDEdGLAGOLIdDOBROdYESTUdZHIVETE",
    "1E008dZEMLJAdIZHEdINITIAL IZHEdIdDJERVIdKAKOdLJUDIJEdMYSLITEdNASHIdONUdPOKOJIdRITSIdSLOVO",
    "dTVRIDOdUKUdFRITUdHERU", "1E01BdSHTAdTSIdCHRIVIdSHAdYERUdYERIdYATI", "1E023dYUdSMALL YUS",
    "1E026dYOdIOTATED SMALL YUSdBIG YUSdIOTATED BIG YUSdFITA",
    "1E100aNYIAKENG PUACHUE HMONG LETTER MAeTSAeNTAeTAeHAeNAeXAeNKAeCAeLAeSAeZAeNCAeNTSAeKAeDAeNYA",
    "eNRAeVAeNTXAeTXAeFAeRAeQAeYAeNQAePAeXYAeNPAeDLAeNPLAeHAHeMLAePLAeGAeRRAeAeAAeIeUeOeOOeEeEEeW",
    "1E130dTONE-BeMeJeVeSeGeDdSIGN FOR PERSONfTHINGfLOCATIONfANIMALfINVERTEBRATEeXW XW",
    "dSYLLABLE LENGTHENER", "1E140dDIGIT ZEROeONEeTWOeTHREEeFOUReFIVEeSIXeSEVENeEIGHTeNINE",
    "1E14EdLOGOGRAM NYAJdCIRCLED CA",
    "1E290aTOTO LETTER PAcBAcTAcDAcKAcGAcMAcNAcNGAcSAcCHAcYAcWAcJAcHAcRAcLAcIcBREATHY IcIU",
    "cBREATHY IUcUcEcBREATHY EcEOcBREATHY EOcOcAEcBREATHY AEcAbSIGN RISING TONE",
    "1E2C0aWANCHO LETTER AAcAcBAcCAcDAcGAcYAcPHAcLAcNAcPAcTAcTHAcFAcSAcSHAcJAcZAcWAcVAcKAcOcAUcRA",
    "cMAcKHAcHAcEcIcNGAcUcLLHAcTSAcTRAcONGcAANGcANGcINGcONcENcAANcNYAcUENcYIHbTONE TUPcTUPNIcKOI",
    "cKOINIbDIGIT ZEROcONEcTWOcTHREEcFOURcFIVEcSIXcSEVENcEIGHTcNINE", "1E2FFbNGUN SIGN",
    "1E7E0aETHIOPIC SYLLABLE HHYAcHHYUcHHYIcHHYAAcHHYEEcHHYEcHHYO",
    "1E7E8cGURAGE HHWAcHHWIcHHWEEcHHWE", "1E7EDcGURAGE MWIdMWEE",
    "1E7F0dQWIdQWEEdQWEdBWIdBWEEdKWIdKWEEdKWEdGWIdGWEEdGWEdFWIdFWEEdPWIdPWEE",
    "1E800aMENDE KIKAKUI SYLLABLE M001 KIdM002 KAdM003 KUdM065 KEEdM095 KEdM076 KOOdM048 KO",
    "dM179 KUAdM004 WIdM005 WAdM006 WUdM126 WEEdM118 WEdM114 WOOdM045 WOdM194 WUIdM143 WEI",
    "dM061 WVIdM049 WVAdM139 WVEdM007 MINdM008 MANdM009 MUNdM059 MENdM094 MONdM154 MUANdM189 MUEN",
    "dM010 BIdM011 BAdM012 BUdM150 BEEdM097 BEdM103 BOOdM138 BOdM013 IdM014 AdM015 UdM163 EE",
    "dM100 EdM165 OOdM147 OdM137 EIdM131 INqM135 dM195 ANdM178 ENdM019 SIdM020 SAdM021 SUdM162 SEE",
    "dM116 SEdM136 SOOdM079 SOdM196 SIAdM025 LIdM026 LAdM027 LUdM084 LEEdM073 LEdM054 LOOdM153 LO",
    "dM110 LONG LEdM016 DIdM017 DAdM018 DUdM089 DEEdM180 DOOdM181 DOdM022 TIdM023 TAdM024 TU",
    "dM091 TEEdM055 TEdM104 TOOdM069 TOdM028 JIdM029 JAdM030 JUdM157 JEEdM113 JEdM160 JOOdM063 JO",
    "dM175 LONG JOdM031 YIdM032 YAdM033 YUdM109 YEEdM080 YEdM141 YOOdM121 YOdM034 FIdM035 FA",
    "dM036 FUdM078 FEEdM075 FEdM133 FOOdM088 FOdM197 FUAdM101 FANdM037 NINdM038 NANdM039 NUN",
    "dM117 NENdM169 NONdM176 HIdM041 HAdM186 HUdM040 HEEdM096 HEdM042 HOOdM140 HOdM083 HEEI",
    "dM128 HOOUdM053 HINdM130 HANdM087 HUNdM052 HENdM193 HONdM046 HUANdM090 NGGIdM043 NGGA",
    "dM082 NGGUdM115 NGGEEdM146 NGGEdM156 NGGOOdM120 NGGOdM159 NGGAAdM127 NGGUAdM086 LONG NGGE",
    "dM106 LONG NGGOOdM183 LONG NGGOdM155 GIdM111 GAdM168 GUdM190 GEEdM166 GUEIdM167 GUAN",
    "dM184 NGENdM057 NGONdM177 NGUANdM068 PIdM099 PAdM050 PUdM081 PEEdM051 PEdM102 POOdM066 PO",
    "dM145 MBIdM062 MBAdM122 MBUdM047 MBEEqM188 dM072 MBEdM172 MBOOdM174 MBOdM187 MBUU",
    "dM161 LONG MBEdM105 LONG MBOOdM142 LONG MBOdM132 KPIdM092 KPAdM074 KPUdM044 KPEEdM108 KPE",
    "dM112 KPOOdM158 KPOdM124 GBIdM056 GBAdM148 GBUdM093 GBEEdM107 GBEdM071 GBOOdM070 GBOdM171 RA",
    "dM123 NDIdM129 NDAdM125 NDUdM191 NDEEdM119 NDEdM067 NDOOdM064 NDOdM152 NJAdM192 NJUdM149 NJEE",
    "dM134 NJOOdM182 VIdM185 VAdM151 VUdM173 VEEdM085 VEdM144 VOOdM077 VOdM164 NYINdM058 NYAN",
    "dM170 NYUNdM098 NYENdM060 NYON",
    "1E8C7cDIGIT ONEdTWOdTHREEdFOURdFIVEdSIXdSEVENdEIGHTdNINEcCOMBINING NUMBER TEENSeTENSeHUNDREDS",
    "eTHOUSANDSeTEN THOUSANDSrHUNDRED eMILLIONS",
    "1E900aADLAM CAPITAL LETTER ALIFdDAALIdLAAMdMIIMdBAdSINNYIIYHEdPEdBHEdRAdEdFAdIdOdDHAdYHEdWAW",
    "dNUNdKAFdYAdUdJIIMdCHIdHAdQAAFdGAdNYAdTUdNHAdVAdKHAdGBEdZALdKPOdSHAbSMALL LETTER ALIFdDAALI",
    "dLAAMdMIIMdBAdSINNYIIYHEdPEdBHEdRAdEdFAdIdOdDHAdYHEdWAWdNUNdKAFdYAdUdJIIMdCHIdHAdQAAFdGAdNYA",
    "dTUdNHAdVAdKHAdGBEdZALdKPOdSHAbALIF LENGTHENERoVOWEL bGEMINATION MARKbHAMZA",
    "bCONSONANT MODIFIERbGEMINATE CONSONANT MODIFIERbNUKTAbNASALIZATION MARK",
    "1E950bDIGIT ZEROcONEcTWOcTHREEcFOURcFIVEcSIXcSEVENcEIGHTcNINE",
    "1E95EbINITIAL EXCLAMATION MARKpQUESTION ",
    "1EC71aINDIC SIYAQ NUMBER ONEdTWOdTHREEdFOURdFIVEdSIXdSEVENdEIGHTdNINEdTENdTWENTYdTHIRTYdFORTY",
    "dFIFTYdSIXTYdSEVENTYdEIGHTYdNINETYdONE HUNDREDqTWO qTHREE qFOUR qFIVE qSIX qSEVEN qEIGHT ",
    "qNINE dONE THOUSANDqTWO qTHREE qFOUR qFIVE qSIX qSEVEN qEIGHT qNINE qTEN qTWENTY qTHIRTY ",
    "qFORTY qFIFTY qSIXTY qSEVENTY qEIGHTY qNINETY dLAKHdLAKHANcLAKH MARKcNUMBER KARORdKARORAN",
    "dPREFIXED ONEeTWOeTHREEeFOUReFIVEeSIXeSEVENeEIGHTeNINEcPLACEHOLDERcFRACTION ONE QUARTEReHALF",
    "dTHREE QUARTERScRUPEE MARKcNUMBER ALTERNATE ONEeTWOeTEN THOUSANDcALTERNATE LAKH MARK",
    "1ED01aOTTOMAN SIYAQ NUMBER ONEdTWOdTHREEdFOURdFIVEdSIXdSEVENdEIGHTdNINEdTENdTWENTYdTHIRTY",
    "dFORTYdFIFTYdSIXTYdSEVENTYdEIGHTYdNINETYdONE HUNDREDqTWO qTHREE qFOUR qFIVE qSIX qSEVEN ",
    "qEIGHT qNINE dONE THOUSANDqTWO qTHREE qFOUR qFIVE qSIX qSEVEN qEIGHT qNINE qTEN qTWENTY ",
    "qTHIRTY qFORTY qFIFTY qSIXTY qSEVENTY qEIGHTY qNINETY cMARRATANcALTERNATE NUMBER TWOeTHREE",
    "eFOUReFIVEeSIXeSEVENeEIGHTeNINEeTENeFOUR HUNDREDrSIX eTWO THOUSANDrTEN cFRACTION ONE HALF",
    "eSIXTH", "1EE00aARABIC MATHEMATICAL ALEFcBEHcJEEMcDAL",
    "1EE05cWAWcZAINcHAHcTAHcYEHcKAFcLAMcMEEMcNOONcSEENcAINcFEHcSADcQAFcREHcSHEENcTEHcTHEHcKHAH",
    "cTHALcDADcZAHcGHAINcDOTLESS BEHdNOONdFEHdQAF", "1EE21cINITIAL BEHdJEEM", "1EE24dHEH",
    "1EE27dHAH", "1EE29dYEHdKAFdLAMdMEEMdNOONdSEENdAINdFEHdSADdQAF", "1EE34dSHEENdTEHdTHEHdKHAH",
    "1EE39dDAD", "1EE3BdGHAIN", "1EE42cTAILED JEEM", "1EE47dHAH", "1EE49dYEH", "1EE4BdLAM",
    "1EE4DdNOONdSEENdAIN", "1EE51dSADdQAF", "1EE54dSHEEN", "1EE57dKHAH", "1EE59dDAD", "1EE5BdGHAIN",
    "1EE5DdDOTLESS NOON", "1EE5FeQAF", "1EE61cSTRETCHED BEHdJEEM", "1EE64dHEH",
    "1EE67dHAHdTAHdYEHdKAF", "1EE6CdMEEMdNOONdSEENdAINdFEHdSADdQAF", "1EE74dSHEENdTEHdTHEHdKHAH",
    "1EE79dDADdZAHdGHAINdDOTLESS BEH", "1EE7EeFEH",
    "1EE80cLOOPED ALEFdBEHdJEEMdDALdHEHdWAWdZAINdHAHdTAHdYEH",
    "1EE8BdLAMdMEEMdNOONdSEENdAINdFEHdSADdQAFdREHdSHEENdTEHdTHEHdKHAHdTHALdDADdZAHdGHAIN",
    "1EEA1cDOUBLE-STRUCK BEHeJEEMeDAL", "1EEA5eWAWeZAINeHAHeTAHeYEH",
    "1EEABeLAMeMEEMeNOONeSEENeAINeFEHeSADeQAFeREHeSHEENeTEHeTHEHeKHAHeTHALeDADeZAHeGHAIN",
    "1EEF0cOPERATOR MEEM WITH HAH WITH TATWEELdHAH WITH DAL",
    "1F000aMAHJONG TILE EAST WINDpSOUTH pWEST pNORTH cRED DRAGONpGREEN pWHITE cONE OF CHARACTERS",
    "pTWO pTHREE pFOUR pFIVE pSIX pSEVEN pEIGHT pNINE cONE OF BAMBOOSpTWO pTHREE pFOUR pFIVE pSIX ",
    "pSEVEN pEIGHT pNINE cONE OF CIRCLESpTWO pTHREE pFOUR pFIVE pSIX pSEVEN pEIGHT pNINE cPLUM",
    "cORCHIDcBAMBOOcCHRYSANTHEMUMcSPRINGcSUMMERcAUTUMNcWINTERcJOKERcBACK",
    "1F030aDOMINO TILE HORIZONTAL BACKcHORIZONTAL-00-00e01e02e03e04e05e06d01-00e01e02e03e04e05e06",
    "d02-00e01e02e03e04e05e06d03-00e01e02e03e04e05e06d04-00e01e02e03e04e05e06d05-00e01e02e03e04e05",
    "e06d06-00e01e02e03e04e05e06cVERTICAL BACKcVERTICAL-00-00e01e02e03e04e05e06d01-00e01e02e03e04",
    "e05e06d02-00e01e02e03e04e05e06d03-00e01e02e03e04e05e06d04-00e01e02e03e04e05e06d05-00e01e02e03",
    "e04e05e06d06-00e01e02e03e04e05e06",
    "1F0A0aPLAYING CARD BACKcACE OF SPADESpTWO pTHREE pFOUR pFIVE pSIX pSEVEN pEIGHT pNINE pTEN ",
    "pJACK pKNIGHT pQUEEN pKING ",
    "1F0B1cACE OF HEARTSpTWO pTHREE pFOUR pFIVE pSIX pSEVEN pEIGHT pNINE pTEN pJACK pKNIGHT ",
    "pQUEEN pKING cRED JOKER",
    "1F0C1cACE OF DIAMONDSpTWO pTHREE pFOUR pFIVE pSIX pSEVEN pEIGHT pNINE pTEN pJACK pKNIGHT ",
    "pQUEEN pKING cBLACK JOKER",
    "1F0D1cACE OF CLUBSpTWO pTHREE pFOUR pFIVE pSIX pSEVEN pEIGHT pNINE pTEN pJACK pKNIGHT pQUEEN ",
    "pKING cWHITE JOKERcFOOLcTRUMP-1d2d3d4d5d6d7d8d9d10d11d12d13d14d15d16d17d18d19d20d21",
    "1F100aDIGIT ZERO FULL STOPcCOMMAoONE oTWO oTHREE oFOUR oFIVE oSIX oSEVEN oEIGHT oNINE ",
    "aDINGBAT CIRCLED SANS-SERIF DIGIT ZERObNEGATIVE CIRCLED SANS-SERIF DIGIT ZERO",
    "aCIRCLED ZERO WITH SLASHbANTICLOCKWISE ARROWbDOLLAR SIGN WITH OVERLAID BACKSLASH",
    "aPARENTHESIZED LATIN CAPITAL LETTER AeBeCeDeEeFeGeHeIeJeKeLeMeNeOePeQeReSeTeUeVeWeXeYeZ",
    "aTORTOISE SHELL BRACKETED LATIN CAPITAL LETTER SaCIRCLED ITALIC LATIN CAPITAL LETTER CfRbCD",
    "bWZaCOPYLEFT SYMBOLaSQUARED LATIN CAPITAL LETTER AeBeCeDeEeFeGeHeIeJeKeLeMeNeOePeQeReSeTeUeV",
    "eWeXeYeZbHVbMVbSDbSSbPPVbWCaNEGATIVE CIRCLED LATIN CAPITAL LETTER AfBfCfDfEfFfGfHfIfJfKfLfMfN",
    "fOfPfQfRfSfTfUfVfWfXfYfZaRAISED MC SIGNoMD oMR aCIRCLED CCbC WITH OVERLAID BACKSLASH",
    "bHUMAN FIGUREaNEGATIVE SQUARED LATIN CAPITAL LETTER AfBfCfDfEfFfGfHfIfJfKfLfMfNfOfPfQfRfSfTfU",
    "fVfWfXfYfZaCROSSED NEGATIVE SQUARED LATIN CAPITAL LETTER PaNEGATIVE SQUARED ICcPAcSAcABcWC",
    "aSQUARE DJaSQUARED CLbCOOLbFREEbIDbNEWbNGbOKbSOSbUP WITH EXCLAMATION MARKbVSbTHREE D",
    "bSECOND SCREENbTWO KoFOUR oEIGHT bFIVE POINT ONEoSEVEN bTWENTY-TWO POINT TWObSIXTY P",
    "bONE HUNDRED TWENTY PbLATIN SMALL LETTER DbHCbHDRbHI-RESbLOSSLESSbSHVbUHDbVOD",
    "aMASK WORK SYMBOL",
    "1F1E6aREGIONAL INDICATOR SYMBOL LETTER AeBeCeDeEeFeGeHeIeJeKeLeMeNeOePeQeReSeTeUeVeWeXeYeZ",
    "aSQUARE HIRAGANA HOKAaSQUARED KATAKANA KOKOcSA",
    "1F210bCJK UNIFIED IDEOGRAPH-624Be5B57e53CCbKATAKANA DEbCJK UNIFIED IDEOGRAPH-4E8Ce591Ae89E3",
    "e5929e4EA4e6620e7121e6599e524De5F8Ce518De65B0e521De7D42e751Fe8CA9e58F0e5439e6F14e6295e6355",
    "e4E00e4E09e904Ae5DE6e4E2De53F3e6307e8D70e6253e7981e7A7Ae5408e6E80e6709e6708e7533e5272e55B6",
    "e914D",
    "1F240aTORTOISE SHELL BRACKETED CJK UNIFIED IDEOGRAPH-672Cg4E09g4E8Cg5B89g70B9g6253g76D7g52DD",
    "g6557", "1F250aCIRCLED IDEOGRAPH ADVANTAGEcACCEPT",
    "1F260aROUNDED SYMBOL FOR FUdLUdSHOUdXIdSHUANGXIdCAI",
    "1F300aCYCLONEaFOGGYaCLOSED UMBRELLAaNIGHT WITH STARSaSUNRISE OVER MOUNTAINSaSUNRISE",
    "aCITYSCAPE AT DUSKaSUNSET OVER BUILDINGSaRAINBOWaBRIDGE AT NIGHTaWATER WAVEaVOLCANOaMILKY WAY",
    "aEARTH GLOBE EUROPE-AFRICAcAMERICAScASIA-AUSTRALIAaGLOBE WITH MERIDIANSaNEW MOON SYMBOL",
    "aWAXING CRESCENT MOON SYMBOLnFIRST QUARTER nWAXING GIBBOUS aFULL MOON SYMBOL",
    "aWANING GIBBOUS MOON SYMBOLnLAST QUARTER nWANING CRESCENT aCRESCENT MOONaNEW MOON WITH FACE",
    "aFIRST QUARTER MOON WITH FACEnLAST aFULL MOON WITH FACEaSUN WITH FACEaGLOWING STARnSHOOTING ",
    "aTHERMOMETERaBLACK DROPLETaWHITE SUNbSUN WITH SMALL CLOUDcBEHIND CLOUDdCLOUD WITH RAIN",
    "aCLOUD WITH RAINcSNOWcLIGHTNINGcTORNADOaFOGaWIND BLOWING FACEaHOT DOGaTACOaBURRITOaCHESTNUT",
    "aSEEDLINGaEVERGREEN TREEnDECIDUOUS nPALM aCACTUSaHOT PEPPERaTULIPaCHERRY BLOSSOMaROSE",
    "aHIBISCUSaSUNFLOWERaBLOSSOMaEAR OF MAIZEcRICEaHERBaFOUR LEAF CLOVERaMAPLE LEAFnFALLEN ",
    "aLEAF FLUTTERING IN WINDaMUSHROOMaTOMATOaAUBERGINEaGRAPESaMELONaWATERMELONaTANGERINEaLEMON",
    "aBANANAaPINEAPPLEaRED APPLEnGREEN aPEARaPEACHaCHERRIESaSTRAWBERRYaHAMBURGERaSLICE OF PIZZA",
    "aMEAT ON BONEaPOULTRY LEGaRICE CRACKERbBALLaCOOKED RICEaCURRY AND RICEaSTEAMING BOWL",
    "aSPAGHETTIaBREADaFRENCH FRIESaROASTED SWEET POTATOaDANGOaODENaSUSHIaFRIED SHRIMP",
    "aFISH CAKE WITH SWIRL DESIGNaSOFT ICE CREAMaSHAVED ICEaICE CREAMaDOUGHNUTaCOOKIE",
    "aCHOCOLATE BARaCANDYaLOLLIPOPaCUSTARDaHONEY POTaSHORTCAKEaBENTO BOXaPOT OF FOODaCOOKING",
    "aFORK AND KNIFEaTEACUP WITHOUT HANDLEaSAKE BOTTLE AND CUPaWINE GLASSnCOCKTAIL aTROPICAL DRINK",
    "aBEER MUGaCLINKING BEER MUGSaBABY BOTTLEaFORK AND KNIFE WITH PLATEaBOTTLE WITH POPPING CORK",
    "aPOPCORNaRIBBONaWRAPPED PRESENTaBIRTHDAY CAKEaJACK-O-LANTERNaCHRISTMAS TREEaFATHER CHRISTMAS",
    "aFIREWORKSaFIREWORK SPARKLERaBALLOONaPARTY POPPERaCONFETTI BALLaTANABATA TREEaCROSSED FLAGS",
    "aPINE DECORATIONaJAPANESE DOLLSaCARP STREAMERaWIND CHIMEaMOON VIEWING CEREMONYaSCHOOL SATCHEL",
    "aGRADUATION CAPaHEART WITH TIP ON THE LEFTaBOUQUET OF FLOWERSaMILITARY MEDALaREMINDER RIBBON",
    "aMUSICAL KEYBOARD WITH JACKSaSTUDIO MICROPHONEaLEVEL SLIDERaCONTROL KNOBS",
    "aBEAMED ASCENDING MUSICAL NOTESoDESCENDING aFILM FRAMESaADMISSION TICKETSaCAROUSEL HORSE",
    "aFERRIS WHEELaROLLER COASTERaFISHING POLE AND FISHaMICROPHONEaMOVIE CAMERAaCINEMAaHEADPHONE",
    "aARTIST PALETTEaTOP HATaCIRCUS TENTaTICKETaCLAPPER BOARDaPERFORMING ARTSaVIDEO GAME",
    "aDIRECT HITaSLOT MACHINEaBILLIARDSaGAME DIEaBOWLINGaFLOWER PLAYING CARDSaMUSICAL NOTE",
    "aMULTIPLE MUSICAL NOTESaSAXOPHONEaGUITARaMUSICAL KEYBOARDaTRUMPETaVIOLINaMUSICAL SCORE",
    "aRUNNING SHIRT WITH SASHaTENNIS RACQUET AND BALLaSKI AND SKI BOOTaBASKETBALL AND HOOP",
    "aCHEQUERED FLAGaSNOWBOARDERaRUNNERaSURFERaSPORTS MEDALaTROPHYaHORSE RACINGaAMERICAN FOOTBALL",
    "nRUGBY aSWIMMERaWEIGHT LIFTERaGOLFERaRACING MOTORCYCLEbCARaCRICKET BAT AND BALLaVOLLEYBALL",
    "aFIELD HOCKEY STICK AND BALLaICE HOCKEY STICK AND PUCKaTABLE TENNIS PADDLE AND BALL",
    "aSNOW CAPPED MOUNTAINaCAMPINGaBEACH WITH UMBRELLAaBUILDING CONSTRUCTIONaHOUSE BUILDINGS",
    "aCITYSCAPEaDERELICT HOUSE BUILDINGaCLASSICAL BUILDINGaDESERTaDESERT ISLANDaNATIONAL PARK",
    "aSTADIUMaHOUSE BUILDINGbWITH GARDENaOFFICE BUILDINGaJAPANESE POST OFFICEnEUROPEAN aHOSPITAL",
    "aBANKaAUTOMATED TELLER MACHINEaHOTELaLOVE HOTELaCONVENIENCE STOREaSCHOOLaDEPARTMENT STORE",
    "aFACTORYaIZAKAYA LANTERNaJAPANESE CASTLEnEUROPEAN aWHITE PENNANTnBLACK aWAVING WHITE FLAG",
    "oBLACK aROSETTEaBLACK ROSETTEaLABELaBADMINTON RACQUET AND SHUTTLECOCKaBOW AND ARROWaAMPHORA",
    "aEMOJI MODIFIER FITZPATRICK TYPE-1-2e3e4e5e6aRATaMOUSEaOXaWATER BUFFALOaCOWaTIGERaLEOPARD",
    "aRABBITaCATaDRAGONaCROCODILEaWHALEaSNAILaSNAKEaHORSEaRAMaGOATaSHEEPaMONKEYaROOSTERaCHICKEN",
    "aDOGaPIGaBOARaELEPHANTaOCTOPUSaSPIRAL SHELLaBUGaANTaHONEYBEEaLADY BEETLEaFISHaTROPICAL FISH",
    "aBLOWFISHaTURTLEaHATCHING CHICKnBABY aFRONT-FACING BABY CHICKaBIRDaPENGUINaKOALAaPOODLE",
    "aDROMEDARY CAMELnBACTRIAN aDOLPHINaMOUSE FACEnCOW nTIGER nRABBIT nCAT nDRAGON aSPOUTING WHALE",
    "aHORSE FACEnMONKEY nDOG nPIG nFROG nHAMSTER nWOLF nBEAR nPANDA aPIG NOSEaPAW PRINTSaCHIPMUNK",
    "aEYESaEYEaEARaNOSEaMOUTHaTONGUEaWHITE UP POINTING BACKHAND INDEXoDOWN oLEFT oRIGHT ",
    "aFISTED HAND SIGNnWAVING nOK nTHUMBS UP oDOWN nCLAPPING HANDS nOPEN aCROWNaWOMANS HAT",
    "aEYEGLASSESaNECKTIEaT-SHIRTaJEANSaDRESSaKIMONOaBIKINIaWOMANS CLOTHESaPURSEaHANDBAGaPOUCH",
    "aMANS SHOEnATHLETIC aHIGH-HEELED SHOEaWOMANS SANDALbBOOTSaFOOTPRINTSaBUST IN SILHOUETTE",
    "nBUSTS aBOYaGIRLaMANaWOMANaFAMILYaMAN AND WOMAN HOLDING HANDSaTWO MEN HOLDING HANDSoWOMEN ",
    "aPOLICE OFFICERaWOMAN WITH BUNNY EARSaBRIDE WITH VEILaPERSON WITH BLOND HAIR",
    "aMAN WITH GUA PI MAOcTURBANaOLDER MANbWOMANaBABYaCONSTRUCTION WORKERaPRINCESSaJAPANESE OGRE",
    "bGOBLINaGHOSTaBABY ANGELaEXTRATERRESTRIAL ALIENaALIEN MONSTERaIMPaSKULL",
    "aINFORMATION DESK PERSONaGUARDSMANaDANCERaLIPSTICKaNAIL POLISHaFACE MASSAGEaHAIRCUT",
    "aBARBER POLEaSYRINGEaPILLaKISS MARKaLOVE LETTERaRINGaGEM STONEaKISSaBOUQUETaCOUPLE WITH HEART",
    "aWEDDINGaBEATING HEARTnBROKEN aTWO HEARTSaSPARKLING HEARTnGROWING aHEART WITH ARROW",
    "aBLUE HEARTnGREEN nYELLOW nPURPLE aHEART WITH RIBBONaREVOLVING HEARTSaHEART DECORATION",
    "aDIAMOND SHAPE WITH A DOT INSIDEaELECTRIC LIGHT BULBaANGER SYMBOLaBOMBaSLEEPING SYMBOL",
    "nCOLLISION aSPLASHING SWEAT SYMBOLaDROPLETaDASH SYMBOLaPILE OF POOaFLEXED BICEPSaDIZZY SYMBOL",
    "aSPEECH BALLOONnTHOUGHT aWHITE FLOWERaHUNDRED POINTS SYMBOLaMONEY BAGaCURRENCY EXCHANGE",
    "aHEAVY DOLLAR SIGNaCREDIT CARDaBANKNOTE WITH YEN SIGNpDOLLAR pEURO pPOUND aMONEY WITH WINGS",
    "aCHART WITH UPWARDS TREND AND YEN SIGNaSEATaPERSONAL COMPUTERaBRIEFCASEaMINIDISCaFLOPPY DISK",
    "aOPTICAL DISCaDVDaFILE FOLDERaOPEN FILE FOLDERaPAGE WITH CURLbFACING UPaCALENDAR",
    "aTEAR-OFF CALENDARaCARD INDEXaCHART WITH UPWARDS TRENDpDOWNWARDS aBAR CHARTaCLIPBOARDaPUSHPIN",
    "aROUND PUSHPINaPAPERCLIPaSTRAIGHT RULERnTRIANGULAR aBOOKMARK TABSaLEDGERaNOTEBOOK",
    "aNOTEBOOK WITH DECORATIVE COVERaCLOSED BOOKnOPEN nGREEN nBLUE nORANGE aBOOKSaNAME BADGE",
    "aSCROLLaMEMOaTELEPHONE RECEIVERaPAGERaFAX MACHINEaSATELLITE ANTENNA",
    "aPUBLIC ADDRESS LOUDSPEAKERaCHEERING MEGAPHONEaOUTBOX TRAYnINBOX aPACKAGEaE-MAIL SYMBOL",
    "aINCOMING ENVELOPEaENVELOPE WITH DOWNWARDS ARROW ABOVEaCLOSED MAILBOX WITH LOWERED FLAG",
    "qRAISED nOPEN qLOWERED aPOSTBOXaPOSTAL HORNaNEWSPAPERaMOBILE PHONE",
    "bPHONE WITH RIGHTWARDS ARROW AT LEFTaVIBRATION MODEaMOBILE PHONE OFFaNO MOBILE PHONES",
    "aANTENNA WITH BARSaCAMERAaCAMERA WITH FLASHaVIDEO CAMERAaTELEVISIONaRADIOaVIDEOCASSETTE",
    "aFILM PROJECTORaPORTABLE STEREOaPRAYER BEADSaTWISTED RIGHTWARDS ARROWS",
    "aCLOCKWISE RIGHTWARDS AND LEFTWARDS OPEN CIRCLE ARROWSgARROWS WITH CIRCLED ONE OVERLAY",
    "bDOWNWARDS AND UPWARDS OPEN CIRCLE ARROWSnANTICLOCKWISE aLOW BRIGHTNESS SYMBOLnHIGH ",
    "aSPEAKER WITH CANCELLATION STROKEaSPEAKERaSPEAKER WITH ONE SOUND WAVEcTHREE SOUND WAVES",
    "aBATTERYaELECTRIC PLUGaLEFT-POINTING MAGNIFYING GLASSnRIGHT-aLOCK WITH INK PEN",
    "aCLOSED LOCK WITH KEYaKEYaLOCKaOPEN LOCKaBELLaBELL WITH CANCELLATION STROKEaBOOKMARK",
    "aLINK SYMBOLaRADIO BUTTONaBACK WITH LEFTWARDS ARROW ABOVEnEND ",
    "aON WITH EXCLAMATION MARK WITH LEFT RIGHT ARROW ABOVEaSOON WITH RIGHTWARDS ARROW ABOVE",
    "nTOP WITH UPWARDS aNO ONE UNDER EIGHTEEN SYMBOLaKEYCAP TEN",
    "aINPUT SYMBOL FOR LATIN CAPITAL LETTERSrSMALL dNUMBERSdSYMBOLSdLATIN LETTERSaFIRE",
    "aELECTRIC TORCHaWRENCHaHAMMERaNUT AND BOLTaHOCHOaPISTOLaMICROSCOPEaTELESCOPEaCRYSTAL BALL",
    "aSIX POINTED STAR WITH MIDDLE DOTaJAPANESE SYMBOL FOR BEGINNERaTRIDENT EMBLEM",
    "aBLACK SQUARE BUTTONnWHITE aLARGE RED CIRCLEoBLUE bORANGE DIAMONDoBLUE nSMALL ORANGE oBLUE ",
    "aUP-POINTING RED TRIANGLEnDOWN-aUP-POINTING SMALL RED TRIANGLEnDOWN-",
    "aLOWER RIGHT SHADOWED WHITE CIRCLEnUPPER aCIRCLED CROSS POMMEE",
    "aCROSS POMMEE WITH HALF-CIRCLE BELOWbPOMMEEaNOTCHED LEFT SEMICIRCLE WITH THREE DOTSoRIGHT ",
    "aSYMBOL FOR MARKS CHAPTERaWHITE LATIN CROSSnHEAVY aCELTIC CROSSaOM SYMBOLaDOVE OF PEACEaKAABA",
    "aMOSQUEaSYNAGOGUEaMENORAH WITH NINE BRANCHESaBOWL OF HYGIEIAaCLOCK FACE ONE OCLOCKpTWO ",
    "pTHREE pFOUR pFIVE pSIX pSEVEN pEIGHT pNINE pTEN pELEVEN pTWELVE cONE-THIRTYpTWO-pTHREE-",
    "pFOUR-pFIVE-pSIX-pSEVEN-pEIGHT-pNINE-pTEN-pELEVEN-pTWELVE-aRIGHT SPEAKER",
    "bSPEAKER WITH ONE SOUND WAVEdTHREE SOUND WAVESaBULLHORNaBULLHORN WITH SOUND WAVES",
    "aRINGING BELLaBOOKaCANDLEaMANTELPIECE CLOCKaBLACK SKULL AND CROSSBONESaNO PIRACYaHOLE",
    "aMAN IN BUSINESS SUIT LEVITATINGaSLEUTH OR SPYaDARK SUNGLASSESaSPIDERaSPIDER WEBaJOYSTICK",
    "aMAN DANCINGaLEFT HAND TELEPHONE RECEIVERaTELEPHONE RECEIVER WITH PAGE",
    "aRIGHT HAND TELEPHONE RECEIVERaWHITE TOUCHTONE TELEPHONEnBLACK aTELEPHONE ON TOP OF MODEM",
    "aCLAMSHELL MOBILE PHONEaBACK OF ENVELOPEaSTAMPED ENVELOPEaENVELOPE WITH LIGHTNING",
    "aFLYING ENVELOPEaPEN OVER STAMPED ENVELOPEaLINKED PAPERCLIPSaBLACK PUSHPINaLOWER LEFT PENCIL",
    "cBALLPOINT PENpFOUNTAIN cPAINTBRUSHcCRAYONaLEFT WRITING HANDaTURNED OK HAND SIGN",
    "aRAISED HAND WITH FINGERS SPLAYEDaREVERSED RAISED HAND WITH FINGERS SPLAYEDbTHUMBS UP SIGN",
    "pDOWN bVICTORY HANDbHAND WITH MIDDLE FINGER EXTENDED",
    "aRAISED HAND WITH PART BETWEEN MIDDLE AND RING FINGERSaWHITE DOWN POINTING LEFT HAND INDEX",
    "aSIDEWAYS WHITE LEFT POINTING INDEXpRIGHT oBLACK LEFT pRIGHT nBLACK LEFT POINTING BACKHAND ",
    "oRIGHT nSIDEWAYS WHITE UP POINTING pDOWN oBLACK UP pDOWN nBLACK UP POINTING BACKHAND oDOWN ",
    "bHEARTaDESKTOP COMPUTERaKEYBOARD AND MOUSEaTHREE NETWORKED COMPUTERSaPRINTER",
    "aPOCKET CALCULATORaBLACK HARD SHELL FLOPPY DISKnWHITE aSOFT SHELL FLOPPY DISKaTAPE CARTRIDGE",
    "aWIRED KEYBOARDaONE BUTTON MOUSEnTWO nTHREE aTRACKBALLaOLD PERSONAL COMPUTERaHARD DISKaSCREEN",
    "aPRINTER ICONnFAX aOPTICAL DISC ICONaDOCUMENT WITH TEXTcTEXT AND PICTUREcPICTUREnFRAME cTILES",
    "cAN XaBLACK FOLDERaFOLDERaOPEN FOLDERaCARD INDEX DIVIDERSbFILE BOXaFILE CABINETaEMPTY NOTE",
    "bNOTE PAGEcPADaNOTEaNOTE PAGEbPADaEMPTY DOCUMENTbPAGEbPAGESaDOCUMENTaPAGEaPAGESaWASTEBASKET",
    "aSPIRAL NOTE PADoCALENDAR aDESKTOP WINDOWaMINIMIZEaMAXIMIZEaOVERLAP",
    "aCLOCKWISE RIGHT AND LEFT SEMICIRCLE ARROWSaCANCELLATION XaINCREASE FONT SIZE SYMBOL",
    "nDECREASE aCOMPRESSIONaOLD KEYaROLLED-UP NEWSPAPERaPAGE WITH CIRCLED TEXTaSTOCK CHART",
    "aDAGGER KNIFEaLIPSaSPEAKING HEAD IN SILHOUETTEaTHREE RAYS ABOVEcBELOWcLEFTcRIGHT",
    "aLEFT SPEECH BUBBLEnRIGHT aTWO SPEECH BUBBLESnTHREE aLEFT THOUGHT BUBBLEnRIGHT nLEFT ANGER ",
    "nRIGHT aMOOD BUBBLEaLIGHTNING MOOD BUBBLEbMOODaBALLOT BOX WITH BALLOTbSCRIPT X",
    "bBOX WITH SCRIPT XbBOLD SCRIPT XbBOX WITH BOLD SCRIPT XaLIGHT CHECK MARK",
    "aBALLOT BOX WITH BOLD CHECKaWORLD MAPaMOUNT FUJIaTOKYO TOWERaSTATUE OF LIBERTY",
    "aSILHOUETTE OF JAPANaMOYAIaGRINNING FACEbFACE WITH SMILING EYESaFACE WITH TEARS OF JOY",
    "aSMILING FACE WITH OPEN MOUTHeMOUTH AND SMILING EYESgCOLD SWEATgTIGHTLY-CLOSED EYESdHALO",
    "dHORNSaWINKING FACEaSMILING FACE WITH SMILING EYESaFACE SAVOURING DELICIOUS FOOD",
    "aRELIEVED FACEaSMILING FACE WITH HEART-SHAPED EYESdSUNGLASSESaSMIRKING FACEnNEUTRAL ",
    "nEXPRESSIONLESS nUNAMUSED aFACE WITH COLD SWEATaPENSIVE FACEnCONFUSED nCONFOUNDED nKISSING ",
    "aFACE THROWING A KISSaKISSING FACE WITH SMILING EYESqCLOSED aFACE WITH STUCK-OUT TONGUE",
    "eTONGUE AND WINKING EYEgTIGHTLY-CLOSED EYESaDISAPPOINTED FACEnWORRIED nANGRY nPOUTING ",
    "nCRYING nPERSEVERING aFACE WITH LOOK OF TRIUMPHaDISAPPOINTED BUT RELIEVED FACE",
    "aFROWNING FACE WITH OPEN MOUTHaANGUISHED FACEnFEARFUL nWEARY nSLEEPY nTIRED nGRIMACING ",
    "aLOUDLY CRYING FACEaFACE WITH OPEN MOUTHaHUSHED FACEaFACE WITH OPEN MOUTH AND COLD SWEAT",
    "bSCREAMING IN FEARaASTONISHED FACEnFLUSHED nSLEEPING nDIZZY aFACE WITHOUT MOUTH",
    "bWITH MEDICAL MASKaGRINNING CAT FACE WITH SMILING EYESaCAT FACE WITH TEARS OF JOY",
    "aSMILING CAT FACE WITH OPEN MOUTHeHEART-SHAPED EYESaCAT FACE WITH WRY SMILE",
    "aKISSING CAT FACE WITH CLOSED EYESaPOUTING CAT FACEnCRYING nWEARY nSLIGHTLY FROWNING ",
    "oSMILING nUPSIDE-DOWN aFACE WITH ROLLING EYEScNO GOOD GESTUREcOK GESTUREaPERSON BOWING DEEPLY",
    "aSEE-NO-EVIL MONKEYnHEAR-nSPEAK-aHAPPY PERSON RAISING ONE HAND",
    "aPERSON RAISING BOTH HANDS IN CELEBRATIONbFROWNINGbWITH POUTING FACEcFOLDED HANDS",
    "aNORTH WEST POINTING LEAFnSOUTH nNORTH EAST nSOUTH aTURNED NORTH WEST POINTING LEAFoSOUTH ",
    "oNORTH EAST oSOUTH nNORTH WEST POINTING VINE nSOUTH nNORTH EAST nSOUTH ",
    "aHEAVY NORTH WEST POINTING VINE LEAFoSOUTH oNORTH EAST oSOUTH aNORTH WEST POINTING BUDnSOUTH ",
    "nNORTH EAST nSOUTH aHEAVY NORTH WEST POINTING BUDoSOUTH oNORTH EAST oSOUTH ",
    "aHOLLOW QUILT SQUARE ORNAMENTdORNAMENT IN BLACK SQUAREaSOLID QUILT SQUARE ORNAMENT",
    "dORNAMENT IN BLACK SQUAREaLEFTWARDS ROCKETnUPWARDS nRIGHTWARDS nDOWNWARDS ",
    "aSCRIPT LIGATURE ET ORNAMENTaHEAVY SCRIPT LIGATURE ET ORNAMENTaLIGATURE OPEN ET ORNAMENT",
    "aHEAVY LIGATURE OPEN ET ORNAMENTbAMPERSAND ORNAMENTnSWASH ",
    "aSANS-SERIF HEAVY DOUBLE TURNED COMMA QUOTATION MARK ORNAMENTeCOMMA QUOTATION MARK ORNAMENT",
    "dLOW DOUBLE COMMA QUOTATION MARK ORNAMENTaHEAVY INTERROBANG ORNAMENT",
    "aSANS-SERIF INTERROBANG ORNAMENTaHEAVY SANS-SERIF INTERROBANG ORNAMENTaVERY HEAVY SOLIDUS",
    "cREVERSE SOLIDUSaCHECKER BOARDaREVERSE CHECKER BOARDaROCKETaHELICOPTERaSTEAM LOCOMOTIVE",
    "aRAILWAY CARaHIGH-SPEED TRAINcTRAIN WITH BULLET NOSEaTRAINaMETROaLIGHT RAILaSTATIONaTRAM",
    "aTRAM CARaBUSaONCOMING BUSaTROLLEYBUSaBUS STOPaMINIBUSaAMBULANCEaFIRE ENGINEaPOLICE CAR",
    "aONCOMING POLICE CARaTAXIaONCOMING TAXIaAUTOMOBILEaONCOMING AUTOMOBILEaRECREATIONAL VEHICLE",
    "aDELIVERY TRUCKaARTICULATED LORRYaTRACTORaMONORAILaMOUNTAIN RAILWAYnSUSPENSION ",
    "aMOUNTAIN CABLEWAYaAERIAL TRAMWAYaSHIPaROWBOATaSPEEDBOATaHORIZONTAL TRAFFIC LIGHTnVERTICAL ",
    "aCONSTRUCTION SIGNaPOLICE CARS REVOLVING LIGHTaTRIANGULAR FLAG ON POSTaDOORaNO ENTRY SIGN",
    "aSMOKING SYMBOLaNO SMOKING SYMBOLaPUT LITTER IN ITS PLACE SYMBOLaDO NOT LITTER SYMBOL",
    "aPOTABLE WATER SYMBOLaNON-POTABLE WATER SYMBOLaBICYCLEaNO BICYCLESaBICYCLIST",
    "aMOUNTAIN BICYCLISTaPEDESTRIANaNO PEDESTRIANSaCHILDREN CROSSINGaMENS SYMBOLnWOMENS aRESTROOM",
    "aBABY SYMBOLaTOILETaWATER CLOSETaSHOWERaBATHaBATHTUBaPASSPORT CONTROLaCUSTOMSaBAGGAGE CLAIM",
    "aLEFT LUGGAGEaTRIANGLE WITH ROUNDED CORNERSaPROHIBITED SIGNaCIRCLED INFORMATION SOURCE",
    "aBOYS SYMBOLnGIRLS aCOUCH AND LAMPaSLEEPING ACCOMMODATIONaSHOPPING BAGSaBELLHOP BELLaBED",
    "aPLACE OF WORSHIPaOCTAGONAL SIGNaSHOPPING TROLLEYaSTUPAaPAGODAaHINDU TEMPLEaHUTaELEVATOR",
    "1F6DDaPLAYGROUND SLIDEaWHEELaRING BUOYaHAMMER AND WRENCHaSHIELDaOIL DRUMaMOTORWAY",
    "aRAILWAY TRACKaMOTOR BOATaUP-POINTING MILITARY AIRPLANEcAIRPLANEcSMALL AIRPLANE",
    "aSMALL AIRPLANEaNORTHEAST-POINTING AIRPLANEaAIRPLANE DEPARTUREbARRIVING",
    "1F6F0aSATELLITEaONCOMING FIRE ENGINEaDIESEL LOCOMOTIVEaPASSENGER SHIPaSCOOTERaMOTOR SCOOTER",
    "aCANOEaSLEDaFLYING SAUCERaSKATEBOARDaAUTO RICKSHAWaPICKUP TRUCKaROLLER SKATE",
    "1F700aALCHEMICAL SYMBOL FOR QUINTESSENCEdAIRdFIREdEARTHdWATERdAQUAFORTISdAQUA REGIAeREGIA-2",
    "eVITAEeVITAE-2dVINEGARdVINEGAR-2e3dSULFURdPHILOSOPHERS SULFURqBLACK dMERCURY SUBLIMATE",
    "eSUBLIMATE-2f3dCINNABARdSALTdNITREdVITRIOLdVITRIOL-2dROCK SALTeSALT-2dGOLDdSILVERdIRON ORE",
    "eORE-2dCROCUS OF IRONqREGULUS dCOPPER OREdIRON-COPPER OREdSUBLIMATE OF COPPERqCROCUS ",
    "fCOPPER-2dCOPPER ANTIMONIATEdSALT OF COPPER ANTIMONIATEdSUBLIMATE OF SALT OF COPPERdVERDIGRIS",
    "dTIN OREqLEAD qANTIMONY dSUBLIMATE OF ANTIMONYqSALT dSUBLIMATE OF SALT OF ANTIMONY",
    "dVINEGAR OF ANTIMONYqREGULUS fANTIMONY-2dREGULUSdREGULUS-2e3e4dALKALIdALKALI-2dMARCASITE",
    "dSAL-AMMONIACdARSENICdREALGARdREALGAR-2dAURIPIGMENTdBISMUTH OREdTARTARdTARTAR-2dQUICK LIME",
    "dBORAXdBORAX-2e3dALUMdOILdSPIRITdTINCTUREdGUMdWAXdPOWDERdCALXdTUTTYdCAPUT MORTUUM",
    "dSCEPTER OF JOVEdCADUCEUSdTRIDENTdSTARRED TRIDENTdLODESTONEdSOAPdURINEdHORSE DUNGdASHES",
    "dPOT ASHESdBRICKdPOWDERED BRICKdAMALGAMdSTRATUM SUPER STRATUMfSTRATUM-2dSUBLIMATION",
    "dPRECIPITATEdDISTILLdDISSOLVEdDISSOLVE-2dPURIFYdPUTREFACTIONdCRUCIBLEdCRUCIBLE-2e3e4e5",
    "dALEMBICdBATH OF MARYfVAPOURSdRETORTdHOURdNIGHTdDAY-NIGHTdMONTHdHALF DRAMeOUNCE",
    "1F780aBLACK LEFT-POINTING ISOSCELES RIGHT TRIANGLEoUP-oRIGHT-oDOWN-bSLIGHTLY SMALL CIRCLE",
    "nMEDIUM BOLD WHITE aBOLD WHITE CIRCLEnHEAVY aVERY HEAVY WHITE CIRCLEnEXTREMELY ",
    "aWHITE CIRCLE CONTAINING BLACK SMALL CIRCLEaROUND TARGETaBLACK TINY SQUARE",
    "bSLIGHTLY SMALL SQUAREaLIGHT WHITE SQUAREnMEDIUM nBOLD nHEAVY aVERY HEAVY WHITE SQUARE",
    "nEXTREMELY aWHITE SQUARE CONTAINING BLACK VERY SMALL SQUAREeMEDIUM SQUAREaSQUARE TARGET",
    "aBLACK TINY DIAMONDbVERY SMALL DIAMONDoMEDIUM ",
    "aWHITE DIAMOND CONTAINING BLACK VERY SMALL DIAMONDeMEDIUM DIAMONDaDIAMOND TARGET",
    "aBLACK TINY LOZENGEbVERY SMALL LOZENGEoMEDIUM aWHITE LOZENGE CONTAINING BLACK SMALL LOZENGE",
    "aTHIN GREEK CROSSnLIGHT nMEDIUM nBOLD aVERY BOLD GREEK CROSSoHEAVY nEXTREMELY aTHIN SALTIRE",
    "nLIGHT nMEDIUM nBOLD nHEAVY aVERY HEAVY SALTIREnEXTREMELY aLIGHT FIVE SPOKED ASTERISKnMEDIUM ",
    "nBOLD nHEAVY aVERY HEAVY FIVE SPOKED ASTERISKnEXTREMELY aLIGHT SIX SPOKED ASTERISKnMEDIUM ",
    "nBOLD nHEAVY aVERY HEAVY SIX SPOKED ASTERISKnEXTREMELY aLIGHT EIGHT SPOKED ASTERISKnMEDIUM ",
    "nBOLD nHEAVY aVERY HEAVY EIGHT SPOKED ASTERISKaLIGHT THREE POINTED BLACK STARnMEDIUM ",
    "aTHREE POINTED BLACK STARaMEDIUM THREE POINTED PINWHEEL STARnLIGHT FOUR POINTED BLACK ",
    "nMEDIUM aFOUR POINTED BLACK STARaMEDIUM FOUR POINTED PINWHEEL STAR",
    "aREVERSE LIGHT FOUR POINTED PINWHEEL STARaLIGHT FIVE POINTED BLACK STARnHEAVY nMEDIUM SIX ",
    "nHEAVY aSIX POINTED PINWHEEL STARaMEDIUM EIGHT POINTED BLACK STARnHEAVY ",
    "aVERY HEAVY EIGHT POINTED BLACK STARaHEAVY EIGHT POINTED PINWHEEL STAR",
    "nLIGHT TWELVE POINTED BLACK nHEAVY qPINWHEEL aCIRCLED TRIANGLEaNEGATIVE CIRCLED TRIANGLE",
    "aCIRCLED SQUAREaNEGATIVE CIRCLED SQUARE",
    "1F7E0aLARGE ORANGE CIRCLEoYELLOW oGREEN oPURPLE oBROWN bRED SQUAREoBLUE oORANGE oYELLOW ",
    "oGREEN oPURPLE oBROWN ", "1F7F0aHEAVY EQUALS SIGN",
    "1F800aLEFTWARDS ARROW WITH SMALL TRIANGLE ARROWHEADnUPWARDS nRIGHTWARDS nDOWNWARDS ",
    "nLEFTWARDS ARROW WITH MEDIUM nUPWARDS nRIGHTWARDS nDOWNWARDS nLEFTWARDS ARROW WITH LARGE ",
    "nUPWARDS nRIGHTWARDS nDOWNWARDS ",
    "1F810nLEFTWARDS ARROW WITH SMALL EQUILATERAL nUPWARDS nRIGHTWARDS nDOWNWARDS ",
    "aLEFTWARDS ARROW WITH EQUILATERAL ARROWHEADnUPWARDS nRIGHTWARDS nDOWNWARDS ",
    "aHEAVY LEFTWARDS ARROW WITH EQUILATERAL ARROWHEADoUPWARDS oRIGHTWARDS oDOWNWARDS ",
    "bLEFTWARDS ARROW WITH LARGE EQUILATERAL ARROWHEADoUPWARDS oRIGHTWARDS oDOWNWARDS ",
    "aLEFTWARDS TRIANGLE-HEADED ARROW WITH NARROW SHAFTnUPWARDS nRIGHTWARDS nDOWNWARDS ",
    "nLEFTWARDS TRIANGLE-HEADED ARROW WITH MEDIUM nUPWARDS nRIGHTWARDS nDOWNWARDS ",
    "nLEFTWARDS TRIANGLE-HEADED ARROW WITH BOLD nUPWARDS nRIGHTWARDS nDOWNWARDS ",
    "nLEFTWARDS TRIANGLE-HEADED ARROW WITH HEAVY nUPWARDS nRIGHTWARDS nDOWNWARDS ",
    "aLEFTWARDS TRIANGLE-HEADED ARROW WITH VERY HEAVY SHAFTnUPWARDS nRIGHTWARDS nDOWNWARDS ",
    "aLEFTWARDS FINGER-POST ARROWnUPWARDS nRIGHTWARDS nDOWNWARDS aLEFTWARDS SQUARED ARROWnUPWARDS ",
    "nRIGHTWARDS nDOWNWARDS nLEFTWARDS COMPRESSED nUPWARDS nRIGHTWARDS nDOWNWARDS ",
    "aLEFTWARDS HEAVY COMPRESSED ARROWnUPWARDS nRIGHTWARDS nDOWNWARDS aLEFTWARDS HEAVY ARROW",
    "nUPWARDS nRIGHTWARDS nDOWNWARDS ",
    "1F850aLEFTWARDS SANS-SERIF ARROWnUPWARDS nRIGHTWARDS nDOWNWARDS aNORTH WEST SANS-SERIF ARROW",
    "oEAST nSOUTH oWEST nLEFT RIGHT nUP DOWN ",
    "1F860aWIDE-HEADED LEFTWARDS LIGHT BARB ARROWpUPWARDS pRIGHTWARDS pDOWNWARDS ",
    "cNORTH WEST LIGHT BARB ARROWqEAST pSOUTH qWEST cLEFTWARDS BARB ARROWpUPWARDS pRIGHTWARDS ",
    "pDOWNWARDS cNORTH WEST BARB ARROWqEAST pSOUTH qWEST pLEFTWARDS MEDIUM pUPWARDS pRIGHTWARDS ",
    "pDOWNWARDS cNORTH WEST MEDIUM BARB ARROWqEAST pSOUTH qWEST cLEFTWARDS HEAVY BARB ARROW",
    "pUPWARDS pRIGHTWARDS pDOWNWARDS cNORTH WEST HEAVY BARB ARROWqEAST pSOUTH qWEST ",
    "pLEFTWARDS VERY pUPWARDS pRIGHTWARDS pDOWNWARDS cNORTH WEST VERY HEAVY BARB ARROWqEAST ",
    "pSOUTH qWEST ", "1F890aLEFTWARDS TRIANGLE ARROWHEADnUPWARDS nRIGHTWARDS nDOWNWARDS ",
    "aLEFTWARDS WHITE ARROW WITHIN TRIANGLE ARROWHEADnUPWARDS nRIGHTWARDS nDOWNWARDS ",
    "aLEFTWARDS ARROW WITH NOTCHED TAILnUPWARDS nRIGHTWARDS nDOWNWARDS ",
    "aHEAVY ARROW SHAFT WIDTH ONEeTWO THIRDSeONE HALFfTHIRDaLEFTWARDS BOTTOM-SHADED WHITE ARROW",
    "nRIGHTWARDS BOTTOM nLEFTWARDS TOP nRIGHTWARDS nLEFTWARDS LEFT-nRIGHTWARDS RIGHT-nLEFTWARDS ",
    "nRIGHTWARDS LEFT-aLEFTWARDS BACK-TILTED SHADOWED WHITE ARROWnRIGHTWARDS nLEFTWARDS FRONT-",
    "nRIGHTWARDS aWHITE ARROW SHAFT WIDTH ONEeTWO THIRDS",
    "1F8B0aARROW POINTING UPWARDS THEN NORTH WESTcRIGHTWARDS THEN CURVING SOUTH WEST",
    "1F900aCIRCLED CROSS FORMEE WITH FOUR DOTSrTWO cFORMEEaLEFT HALF CIRCLE WITH FOUR DOTSrTHREE ",
    "rTWO eDOTcCIRCLEaDOWNWARD FACING HOOKcNOTCHED HOOKcHOOK WITH DOTcNOTCHED HOOK WITH DOT",
    "aPINCHED FINGERSaWHITE HEARTnBROWN aPINCHING HANDaZIPPER-MOUTH FACEnMONEY-",
    "aFACE WITH THERMOMETERaNERD FACEnTHINKING aFACE WITH HEAD-BANDAGEaROBOT FACEnHUGGING ",
    "aSIGN OF THE HORNSaCALL ME HANDaRAISED BACK OF HANDaLEFT-FACING FISTnRIGHT-aHANDSHAKE",
    "aHAND WITH INDEX AND MIDDLE FINGERS CROSSEDaI LOVE YOU HAND SIGNaFACE WITH COWBOY HAT",
    "aCLOWN FACEnNAUSEATED aROLLING ON THE FLOOR LAUGHINGaDROOLING FACEnLYING aFACE PALM",
    "aSNEEZING FACEaFACE WITH ONE EYEBROW RAISEDaGRINNING FACE WITH STAR EYES",
    "dONE LARGE AND ONE SMALL EYEaFACE WITH FINGER COVERING CLOSED LIPS",
    "aSERIOUS FACE WITH SYMBOLS COVERING MOUTH",
    "aSMILING FACE WITH SMILING EYES AND HAND COVERING MOUTHaFACE WITH OPEN MOUTH VOMITING",
    "aSHOCKED FACE WITH EXPLODING HEADaPREGNANT WOMANaBREAST-FEEDINGaPALMS UP TOGETHERaSELFIE",
    "aPRINCEaMAN IN TUXEDOaMOTHER CHRISTMASaSHRUGaPERSON DOING CARTWHEELaJUGGLINGaFENCER",
    "aMODERN PENTATHLONaWRESTLERSaWATER POLOaHANDBALLaDIVING MASKaWILTED FLOWER",
    "aDRUM WITH DRUMSTICKSaCLINKING GLASSESaTUMBLER GLASSaSPOONaGOAL NETaRIFLEaFIRST PLACE MEDAL",
    "nSECOND nTHIRD aBOXING GLOVEaMARTIAL ARTS UNIFORMaCURLING STONEaLACROSSE STICK AND BALL",
    "aSOFTBALLaFLYING DISCaCROISSANTaAVOCADOaCUCUMBERaBACONaPOTATOaCARROTaBAGUETTE BREAD",
    "aGREEN SALADaSHALLOW PAN OF FOODaSTUFFED FLATBREADaEGGaGLASS OF MILKaPEANUTSaKIWIFRUIT",
    "aPANCAKESaDUMPLINGaFORTUNE COOKIEaTAKEOUT BOXaCHOPSTICKSaBOWL WITH SPOONaCUP WITH STRAW",
    "aCOCONUTaBROCCOLIaPIEaPRETZELaCUT OF MEATaSANDWICHaCANNED FOODaLEAFY GREENaMANGOaMOON CAKE",
    "aBAGELaSMILING FACE WITH SMILING EYES AND THREE HEARTSaYAWNING FACEaSMILING FACE WITH TEAR",
    "aFACE WITH PARTY HORN AND PARTY HATcUNEVEN EYES AND WAVY MOUTHaOVERHEATED FACEnFREEZING ",
    "aNINJAaDISGUISED FACEaFACE HOLDING BACK TEARSbWITH PLEADING EYESaSARIaLAB COATaGOGGLES",
    "aHIKING BOOTaFLAT SHOEaCRABaLION FACEaSCORPIONaTURKEYaUNICORN FACEaEAGLEaDUCKaBATaSHARKaOWL",
    "aFOX FACEaBUTTERFLYaDEERaGORILLAaLIZARDaRHINOCEROSaSHRIMPaSQUIDaGIRAFFE FACEnZEBRA aHEDGEHOG",
    "aSAUROPODaT-REXaCRICKETaKANGAROOaLLAMAaPEACOCKaHIPPOPOTAMUSaPARROTaRACCOONaLOBSTERaMOSQUITO",
    "aMICROBEaBADGERaSWANaMAMMOTHaDODOaSLOTHaOTTERaORANGUTANaSKUNKaFLAMINGOaOYSTERaBEAVERaBISON",
    "aSEALaGUIDE DOGaPROBING CANEaEMOJI COMPONENT RED HAIRpCURLY cBALDcWHITE HAIRaBONEaLEGaFOOT",
    "aTOOTHaSUPERHEROaSUPERVILLAINaSAFETY VESTaEAR WITH HEARING AIDaMOTORIZED WHEELCHAIRnMANUAL ",
    "aMECHANICAL ARMbLEGaCHEESE WEDGEaCUPCAKEaSALT SHAKERaBEVERAGE BOXaGARLICaONIONaFALAFELaWAFFLE",
    "aBUTTERaMATE DRINKaICE CUBEaBUBBLE TEAaTROLLaSTANDING PERSONnKNEELING nDEAF ",
    "aFACE WITH MONOCLEaADULTaCHILDaOLDER ADULTaBEARDED PERSONaPERSON WITH HEADSCARF",
    "bIN STEAMY ROOMbCLIMBINGbIN LOTUS POSITIONaMAGEaFAIRYaVAMPIREaMERPERSONaELFaGENIEaZOMBIE",
    "aBRAINaORANGE HEARTaBILLED CAPaSCARFaGLOVESaCOATaSOCKSaRED GIFT ENVELOPEaFIRECRACKER",
    "aJIGSAW PUZZLE PIECEaTEST TUBEaPETRI DISHaDNA DOUBLE HELIXaCOMPASSaABACUSaFIRE EXTINGUISHER",
    "aTOOLBOXaBRICKaMAGNETaLUGGAGEaLOTION BOTTLEaSPOOL OF THREADaBALL OF YARNaSAFETY PIN",
    "aTEDDY BEARaBROOMaBASKETaROLL OF PAPERaBAR OF SOAPaSPONGEaRECEIPTaNAZAR AMULET",
    "aNEUTRAL CHESS KINGcQUEENcROOKcBISHOPcKNIGHTcPAWN",
    "aWHITE CHESS KNIGHT ROTATED FORTY-FIVE DEGREESnBLACK nNEUTRAL ",
    "aWHITE CHESS KING ROTATED NINETY DEGREESpQUEEN pROOK pBISHOP pKNIGHT pPAWN nBLACK CHESS KING ",
    "pQUEEN pROOK pBISHOP pKNIGHT pPAWN nNEUTRAL CHESS KING pQUEEN pROOK pBISHOP pKNIGHT pPAWN ",
    "aWHITE CHESS KNIGHT ROTATED ONE HUNDRED THIRTY-FIVE DEGREESnBLACK nNEUTRAL ",
    "aWHITE CHESS TURNED KINGdQUEENdROOKdBISHOPdKNIGHTdPAWNaBLACK CHESS TURNED KINGdQUEENdROOK",
    "dBISHOPdKNIGHTdPAWNaNEUTRAL CHESS TURNED KINGdQUEENdROOKdBISHOPdKNIGHTdPAWN",
    "aWHITE CHESS KNIGHT ROTATED TWO HUNDRED TWENTY-FIVE DEGREESnBLACK nNEUTRAL ",
    "aWHITE CHESS KING ROTATED TWO HUNDRED SEVENTY DEGREESpQUEEN pROOK pBISHOP pKNIGHT pPAWN ",
    "nBLACK CHESS KING pQUEEN pROOK pBISHOP pKNIGHT pPAWN nNEUTRAL CHESS KING pQUEEN pROOK ",
    "pBISHOP pKNIGHT pPAWN nWHITE CHESS KNIGHT ROTATED THREE HUNDRED FIFTEEN nBLACK nNEUTRAL ",
    "aWHITE CHESS EQUIHOPPERnBLACK nNEUTRAL aWHITE CHESS EQUIHOPPER ROTATED NINETY DEGREESnBLACK ",
    "nNEUTRAL aWHITE CHESS KNIGHT-QUEENdROOKdBISHOPaBLACK CHESS KNIGHT-QUEENdROOKdBISHOP",
    "1FA60aXIANGQI RED GENERALcMANDARINcELEPHANTcHORSEcCHARIOTcCANNONcSOLDIERbBLACK GENERAL",
    "cMANDARINcELEPHANTcHORSEcCHARIOTcCANNONcSOLDIER",
    "1FA70aBALLET SHOESaONE-PIECE SWIMSUITaBRIEFSaSHORTSaTHONG SANDAL",
    "1FA78aDROP OF BLOODaADHESIVE BANDAGEaSTETHOSCOPEaX-RAYaCRUTCH",
    "1FA80aYO-YOaKITEaPARACHUTEaBOOMERANGaMAGIC WANDaPINATAaNESTING DOLLS",
    "1FA90aRINGED PLANETaCHAIRaRAZORaAXEaDIYA LAMPaBANJOaMILITARY HELMETaACCORDIONaLONG DRUMaCOIN",
    "aCARPENTRY SAWaSCREWDRIVERaLADDERaHOOKaMIRRORaWINDOWaPLUNGERaSEWING NEEDLEaKNOTaBUCKET",
    "aMOUSE TRAPaTOOTHBRUSHaHEADSTONEaPLACARDaROCKaMIRROR BALLaIDENTIFICATION CARDaLOW BATTERY",
    "aHAMSA", "1FAB0aFLYaWORMaBEETLEaCOCKROACHaPOTTED PLANTaWOODaFEATHERaLOTUSaCORALaEMPTY NEST",
    "aNEST WITH EGGS",
    "1FAC0aANATOMICAL HEARTaLUNGSaPEOPLE HUGGINGaPREGNANT MANbPERSONaPERSON WITH CROWN",
    "1FAD0aBLUEBERRIESaBELL PEPPERaOLIVEaFLATBREADaTAMALEaFONDUEaTEAPOTaPOURING LIQUIDaBEANSaJAR",
    "1FAE0aMELTING FACEnSALUTING aFACE WITH OPEN EYES AND HAND OVER MOUTHcPEEKING EYE",
    "cDIAGONAL MOUTHaDOTTED LINE FACEaBITING LIPaBUBBLES",
    "1FAF0aHAND WITH INDEX FINGER AND THUMB CROSSEDaRIGHTWARDS HANDnLEFTWARDS aPALM DOWN HANDoUP ",
    "aINDEX POINTING AT THE VIEWERaHEART HANDS",
    "1FB00aBLOCK SEXTANT-1c2c12c3c13c23c123c4c14c24c124c34c134c234c1234c5c15c25c125c35c235c1235c45",
    "c145c245c1245c345c1345c2345c12345c6c16c26c126c36c136c236c1236c46c146c1246c346c1346c2346c12346",
    "c56c156c256c1256c356c1356c2356c12356c456c1456c2456c12456c3456c13456c23456",
    "aLOWER LEFT BLOCK DIAGONAL LOWER MIDDLE LEFT TO LOWER CENTREjRIGHT",
    "eUPPER MIDDLE LEFT TO LOWER CENTREjRIGHTfLEFT TO LOWER CENTRE",
    "bRIGHT BLOCK DIAGONAL UPPER MIDDLE LEFT TO UPPER CENTREjRIGHT",
    "eLOWER MIDDLE LEFT TO UPPER CENTREjRIGHTfLEFT TO UPPER CENTRE",
    "fMIDDLE LEFT TO UPPER MIDDLE RIGHTfCENTRE TO LOWER MIDDLE RIGHTsLEFT sCENTRE TO UPPER sLEFT ",
    "fCENTRE TO UPPER RIGHTbLEFT BLOCK DIAGONAL UPPER CENTRE TO UPPER MIDDLE RIGHTsLEFT ",
    "sCENTRE TO LOWER sLEFT fCENTRE TO LOWER RIGHTfMIDDLE LEFT TO LOWER MIDDLE RIGHT",
    "aUPPER RIGHT BLOCK DIAGONAL LOWER MIDDLE LEFT TO LOWER CENTREjRIGHT",
    "eUPPER MIDDLE LEFT TO LOWER CENTREjRIGHTfLEFT TO LOWER CENTRE",
    "bLEFT BLOCK DIAGONAL UPPER MIDDLE LEFT TO UPPER CENTREjRIGHT",
    "eLOWER MIDDLE LEFT TO UPPER CENTREjRIGHTfLEFT TO UPPER CENTRE",
    "fMIDDLE LEFT TO UPPER MIDDLE RIGHTfCENTRE TO LOWER MIDDLE RIGHTsLEFT sCENTRE TO UPPER sLEFT ",
    "fCENTRE TO UPPER RIGHTbRIGHT BLOCK DIAGONAL UPPER CENTRE TO UPPER MIDDLE RIGHTsLEFT ",
    "sCENTRE TO LOWER sLEFT fCENTRE TO LOWER RIGHTfMIDDLE LEFT TO LOWER MIDDLE RIGHT",
    "bAND RIGHT AND LOWER TRIANGULAR THREE QUARTERS BLOCKnLEFT AND LOWER AND RIGHT ",
    "nUPPER AND LEFT AND LOWER nLEFT AND UPPER AND RIGHT bTRIANGULAR ONE QUARTER BLOCKnUPPER ",
    "nRIGHT nLOWER aVERTICAL ONE EIGHTH BLOCK-2e3e4e5e6e7aHORIZONTAL ONE EIGHTH BLOCK-2e3e4e5e6e7",
    "aLEFT AND LOWER ONE EIGHTH BLOCKpUPPER nRIGHT pLOWER nUPPER aHORIZONTAL ONE EIGHTH BLOCK-1358",
    "aUPPER ONE QUARTER BLOCKoTHREE EIGHTHS oFIVE oTHREE QUARTERS oSEVEN EIGHTHS ",
    "nRIGHT ONE QUARTER oTHREE EIGHTHS oFIVE oTHREE QUARTERS oSEVEN EIGHTHS ",
    "aLEFT HALF MEDIUM SHADEnRIGHT nUPPER nLOWER aINVERSE MEDIUM SHADE",
    "aUPPER HALF BLOCK AND LOWER HALF INVERSE MEDIUM SHADE",
    "cINVERSE MEDIUM SHADE AND LOWER HALF BLOCK",
    "1FB94nLEFT HALF INVERSE MEDIUM SHADE AND RIGHT aCHECKER BOARD FILLaINVERSE CHECKER BOARD FILL",
    "aHEAVY HORIZONTAL FILLaUPPER LEFT TO LOWER RIGHT FILLoRIGHT TO LOWER LEFT ",
    "bAND LOWER TRIANGULAR HALF BLOCKnLEFT AND RIGHT aUPPER LEFT TRIANGULAR MEDIUM SHADEoRIGHT ",
    "nLOWER oLEFT aBOX DRAWINGS LIGHT DIAGONAL UPPER CENTRE TO MIDDLE LEFTiRIGHT",
    "eMIDDLE LEFT TO LOWER CENTREsRIGHT eUPPER CENTRE TO MIDDLE LEFT TO LOWER CENTREvRIGHT ",
    "eMIDDLE LEFT TO LOWER CENTRE TO MIDDLE RIGHTuUPPER ",
    "eUPPER CENTRE TO MIDDLE LEFT AND MIDDLE RIGHT TO LOWER CENTREvRIGHT AND MIDDLE LEFT ",
    "jTO LOWER CENTRE TO MIDDLE LEFTiLEFT TO LOWER CENTRE TO MIDDLE RIGHT",
    "eMIDDLE LEFT TO UPPER CENTRE TO MIDDLE RIGHT TO LOWER CENTRE",
    "sRIGHT TO UPPER CENTRE TO MIDDLE LEFT eDIAMONDdHORIZONTAL WITH VERTICAL STROKE",
    "aARROWHEAD-SHAPED POINTERaINVERSE CHECK MARKaLEFT HALF RUNNING MANnRIGHT ",
    "aINVERSE DOWNWARDS ARROW WITH TIP LEFTWARDS",
    "aLEFTWARDS ARROW AND UPPER AND LOWER ONE EIGHTH BLOCKnRIGHTWARDS ",
    "aDOWNWARDS ARROW AND RIGHT ONE EIGHTH BLOCKnUPWARDS aLEFT HALF FOLDERnRIGHT ",
    "aVOIDED GREEK CROSSaRIGHT OPEN SQUARED DOTaNEGATIVE DIAGONAL CROSS",
    "cMIDDLE RIGHT TO LOWER CENTREcDIAMONDaWHITE HEAVY SALTIRE WITH ROUNDED CORNERS",
    "aLEFT THIRD WHITE RIGHT POINTING INDEXnMIDDLE nRIGHT aNEGATIVE SQUARED QUESTION MARK",
    "aSTICK FIGUREbFIGURE WITH ARMS RAISEDcLEANING LEFTdRIGHTcWITH DRESSaWHITE UP-POINTING CHEVRON",
    "1FBF0aSEGMENTED DIGIT ZEROcONEcTWOcTHREEcFOURcFIVEcSIXcSEVENcEIGHTcNINE", "E0001aLANGUAGE TAG",
    "E0020aTAG SPACEbEXCLAMATION MARKoQUOTATION bNUMBER SIGNoDOLLAR oPERCENT bAMPERSANDbAPOSTROPHE",
    "bLEFT PARENTHESISoRIGHT bASTERISKbPLUS SIGNbCOMMAbHYPHEN-MINUSbFULL STOPbSOLIDUSbDIGIT ZERO",
    "cONEcTWOcTHREEcFOURcFIVEcSIXcSEVENcEIGHTcNINEbCOLONbSEMICOLONbLESS-THAN SIGNbEQUALS SIGN",
    "bGREATER-THAN SIGNbQUESTION MARKbCOMMERCIAL ATbLATIN CAPITAL LETTER AeBeCeDeEeFeGeHeIeJeKeLeM",
    "eNeOePeQeReSeTeUeVeWeXeYeZbLEFT SQUARE BRACKETbREVERSE SOLIDUSbRIGHT SQUARE BRACKET",
    "bCIRCUMFLEX ACCENTbLOW LINEbGRAVE ACCENTbLATIN SMALL LETTER AeBeCeDeEeFeGeHeIeJeKeLeMeNeOePeQ",
    "eReSeTeUeVeWeXeYeZbLEFT CURLY BRACKETbVERTICAL LINEbRIGHT CURLY BRACKETbTILDEaCANCEL TAG",
    "E0100aVARIATION SELECTOR-17c18c19c20c21c22c23c24c25c26c27c28c29c30c31c32c33c34c35c36c37c38c39",
    "c40c41c42c43c44c45c46c47c48c49c50c51c52c53c54c55c56c57c58c59c60c61c62c63c64c65c66c67c68c69c70",
    "c71c72c73c74c75c76c77c78c79c80c81c82c83c84c85c86c87c88c89c90c91c92c93c94c95c96c97c98c99c100",
    "c101c102c103c104c105c106c107c108c109c110c111c112c113c114c115c116c117c118c119c120c121c122c123",
    "c124c125c126c127c128c129c130c131c132c133c134c135c136c137c138c139c140c141c142c143c144c145c146",
    "c147c148c149c150c151c152c153c154c155c156c157c158c159c160c161c162c163c164c165c166c167c168c169",
    "c170c171c172c173c174c175c176c177c178c179c180c181c182c183c184c185c186c187c188c189c190c191c192",
    "c193c194c195c196c197c198c199c200c201c202c203c204c205c206c207c208c209c210c211c212c213c214c215",
    "c216c217c218c219c220c221c222c223c224c225c226c227c228c229c230c231c232c233c234c235c236c237c238",
    "c239c240c241c242c243c244c245c246c247c248c249c250c251c252c253c254c255c256"]

end EngineBindings.Text.CharName
