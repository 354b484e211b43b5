/-! Names of syllables and of forms of letters.

The lines are written as `CharName.entries` reads them, in the order of the code points.
There are the scripts of syllables, later alphabets, and letters as they look inside a word. -/
namespace EngineBindings.Text.CharName

/-- Names from the code point 3000 on. -/
def syllables : List String := [
    "3000aIDEOGRAPHIC SPACEbCOMMAbFULL STOPaDITTO MARKaJAPANESE INDUSTRIAL STANDARD SYMBOL",
    "aIDEOGRAPHIC ITERATION MARKoCLOSING bNUMBER ZEROaLEFT ANGLE BRACKETnRIGHT ",
    "aLEFT DOUBLE ANGLE BRACKETnRIGHT aLEFT CORNER BRACKETnRIGHT aLEFT WHITE CORNER BRACKETnRIGHT ",
    "nLEFT BLACK LENTICULAR nRIGHT aPOSTAL MARKnGETA aLEFT TORTOISE SHELL BRACKETnRIGHT ",
    "nLEFT WHITE LENTICULAR nRIGHT aLEFT WHITE TORTOISE SHELL BRACKETnRIGHT ",
    "aLEFT WHITE SQUARE BRACKETnRIGHT aWAVE DASHaREVERSED DOUBLE PRIME QUOTATION MARK",
    "aDOUBLE PRIME QUOTATION MARKaLOW DOUBLE PRIME QUOTATION MARKaPOSTAL MARK FACE",
    "aHANGZHOU NUMERAL ONEcTWOcTHREEcFOURcFIVEcSIXcSEVENcEIGHTcNINEaIDEOGRAPHIC LEVEL TONE MARK",
    "oRISING oDEPARTING oENTERING aHANGUL SINGLE DOT TONE MARKoDOUBLE aWAVY DASH",
    "aVERTICAL KANA REPEAT MARKdWITH VOICED SOUND MARKdMARK UPPER HALF",
    "dWITH VOICED SOUND MARK UPPER HALFdMARK LOWER HALFaCIRCLED POSTAL MARK",
    "aIDEOGRAPHIC TELEGRAPH LINE FEED SEPARATOR SYMBOLaHANGZHOU NUMERAL TENcTWENTYcTHIRTY",
    "aVERTICAL IDEOGRAPHIC ITERATION MARKaMASU MARKaPART ALTERNATION MARK",
    "aIDEOGRAPHIC VARIATION INDICATORbHALF FILL SPACE",
    "3041aHIRAGANA LETTER SMALL AcAcSMALL IcIcSMALL UcUcSMALL EcEcSMALL OcOcKAcGAcKIcGIcKUcGUcKE",
    "cGEcKOcGOcSAcZAcSIcZIcSUcZUcSEcZEcSOcZOcTAcDAcTIcDIcSMALL TUcTUcDUcTEcDEcTOcDOcNAcNIcNUcNEcNO",
    "cHAcBAcPAcHIcBIcPIcHUcBUcPUcHEcBEcPEcHOcBOcPOcMAcMIcMUcMEcMOcSMALL YAcYAcSMALL YUcYUcSMALL YO",
    "cYOcRAcRIcRUcREcROcSMALL WAcWAcWIcWEcWOcNcVUcSMALL KAdKE",
    "3099aCOMBINING KATAKANA-HIRAGANA VOICED SOUND MARKdSEMI-VOICED SOUND MARK",
    "aKATAKANA-HIRAGANA VOICED SOUND MARKcSEMI-VOICED SOUND MARKaHIRAGANA ITERATION MARK",
    "bVOICED ITERATION MARKbDIGRAPH YORIaKATAKANA-HIRAGANA DOUBLE HYPHENaKATAKANA LETTER SMALL AcA",
    "cSMALL IcIcSMALL UcUcSMALL EcEcSMALL OcOcKAcGAcKIcGIcKUcGUcKEcGEcKOcGOcSAcZAcSIcZIcSUcZUcSE",
    "cZEcSOcZOcTAcDAcTIcDIcSMALL TUcTUcDUcTEcDEcTOcDOcNAcNIcNUcNEcNOcHAcBAcPAcHIcBIcPIcHUcBUcPUcHE",
    "cBEcPEcHOcBOcPOcMAcMIcMUcMEcMOcSMALL YAcYAcSMALL YUcYUcSMALL YOcYOcRAcRIcRUcREcROcSMALL WAcWA",
    "cWIcWEcWOcNcVUcSMALL KAdKEcVAcVIcVEcVObMIDDLE DOTaKATAKANA-HIRAGANA PROLONGED SOUND MARK",
    "aKATAKANA ITERATION MARKbVOICED ITERATION MARKbDIGRAPH KOTO",
    "3105aBOPOMOFO LETTER BcPcMcFcDcTcNcLcGcKcHcJcQcXcZHcCHcSHcRcZcCcScAcOcEcEHcAIcEIcAUcOUcANcEN",
    "cANGcENGcERcIcUcIUcVcNGcGNcIHcO WITH DOT ABOVEcNN",
    "3131aHANGUL LETTER KIYEOKcSSANGKIYEOKcKIYEOK-SIOScNIEUNcNIEUN-CIEUCdHIEUHcTIKEUTcSSANGTIKEUT",
    "cRIEULcRIEUL-KIYEOKdMIEUMdPIEUPdSIOSdTHIEUTHdPHIEUPHdHIEUHcMIEUMcPIEUPcSSANGPIEUPcPIEUP-SIOS",
    "cSIOScSSANGSIOScIEUNGcCIEUCcSSANGCIEUCcCHIEUCHcKHIEUKHcTHIEUTHcPHIEUPHcHIEUHcAcAEcYAcYAEcEOcE",
    "cYEOcYEcOcWAcWAEcOEcYOcUcWEOcWEcWIcYUcEUcYIcIbFILLERbLETTER SSANGNIEUNcNIEUN-TIKEUTdSIOS",
    "dPANSIOScRIEUL-KIYEOK-SIOSdTIKEUTdPIEUP-SIOSdPANSIOSdYEORINHIEUHcMIEUM-PIEUPdSIOSdPANSIOS",
    "cKAPYEOUNMIEUMcPIEUP-KIYEOKdTIKEUTdSIOS-KIYEOKeTIKEUTdCIEUCdTHIEUTHcKAPYEOUNPIEUP",
    "cKAPYEOUNSSANGPIEUPcSIOS-KIYEOKdNIEUNdTIKEUTdPIEUPdCIEUCcPANSIOScSSANGIEUNGcYESIEUNG",
    "cYESIEUNG-SIOSdPANSIOScKAPYEOUNPHIEUPHcSSANGHIEUHcYEORINHIEUHcYO-YAdYAEdIcYU-YEOdYEdIcARAEA",
    "cARAEAE",
    "3190aIDEOGRAPHIC ANNOTATION LINKING MARKpREVERSE pONE pTWO pTHREE pFOUR pTOP pMIDDLE pBOTTOM ",
    "pFIRST pSECOND pTHIRD pFOURTH pHEAVEN pEARTH pMAN aBOPOMOFO LETTER BUcZIcJIcGUcEEcENNcOOcONN",
    "cIRcANNcINNcUNNcIMcNGGcAINNcAUNNcAMcOMcONGcINNNbFINAL LETTER PdTdKdHbLETTER GHcLHcZY",
    "bFINAL LETTER GbLETTER GWcKWcOEcAHaCJK STROKE TcWGcXGcBXGcSWcHZZcHZGcHPcHZWGcSZWGcHZTcHZZP",
    "cHPWGcHZWcHZZZcNcHcScPcSPcDcHZcHGcSZcSWZcSTcSGcPDcPZcTNcSZZcSWGcHXWGcHZZZGcPGcQ",
    "31F0aKATAKANA LETTER SMALL KUdSIdSUdTOdNUdHAdHIdHUdHEdHOdMUdRAdRIdRUdREdRO",
    "aPARENTHESIZED HANGUL KIYEOKcNIEUNcTIKEUTcRIEULcMIEUMcPIEUPcSIOScIEUNGcCIEUCcCHIEUCHcKHIEUKH",
    "cTHIEUTHcPHIEUPHcHIEUHcKIYEOK ApNIEUN pTIKEUT pRIEUL pMIEUM pPIEUP pSIOS pIEUNG pCIEUC ",
    "pCHIEUCH pKHIEUKH pTHIEUTH pPHIEUPH pHIEUH cCIEUC UbKOREAN CHARACTER OJEONdO HU",
    "3220bIDEOGRAPH ONEcTWOcTHREEcFOURcFIVEcSIXcSEVENcEIGHTcNINEcTENcMOONcFIREcWATERcWOODcMETAL",
    "cEARTHcSUNcSTOCKcHAVEcSOCIETYcNAMEcSPECIALcFINANCIALcCONGRATULATIONcLABORcREPRESENTcCALL",
    "cSTUDYcSUPERVISEcENTERPRISEcRESOURCEcALLIANCEcFESTIVALcRESTcSELFcREACH",
    "aCIRCLED IDEOGRAPH QUESTIONcKINDERGARTENcSCHOOLcKOTObNUMBER TEN ON BLACK SQUAREpTWENTY ",
    "pTHIRTY pFORTY pFIFTY pSIXTY pSEVENTY pEIGHTY aPARTNERSHIP SIGNaCIRCLED NUMBER TWENTY ONEdTWO",
    "dTHREEdFOURdFIVEdSIXdSEVENdEIGHTdNINEcTHIRTYcTHIRTY ONEdTWOdTHREEdFOURdFIVEbHANGUL KIYEOK",
    "cNIEUNcTIKEUTcRIEULcMIEUMcPIEUPcSIOScIEUNGcCIEUCcCHIEUCHcKHIEUKHcTHIEUTHcPHIEUPHcHIEUH",
    "cKIYEOK ApNIEUN pTIKEUT pRIEUL pMIEUM pPIEUP pSIOS pIEUNG pCIEUC pCHIEUCH pKHIEUKH pTHIEUTH ",
    "pPHIEUPH pHIEUH bKOREAN CHARACTER CHAMKOdJUEUIbHANGUL IEUNG UaKOREAN STANDARD SYMBOL",
    "aCIRCLED IDEOGRAPH ONEcTWOcTHREEcFOURcFIVEcSIXcSEVENcEIGHTcNINEcTENcMOONcFIREcWATERcWOOD",
    "cMETALcEARTHcSUNcSTOCKcHAVEcSOCIETYcNAMEcSPECIALcFINANCIALcCONGRATULATIONcLABORcSECRETcMALE",
    "cFEMALEcSUITABLEcEXCELLENTcPRINTcATTENTIONcITEMcRESTcCOPYcCORRECTcHIGHcCENTREcLOWcLEFTcRIGHT",
    "cMEDICINEcRELIGIONcSTUDYcSUPERVISEcENTERPRISEcRESOURCEcALLIANCEcNIGHTbNUMBER THIRTY SIXdSEVEN",
    "dEIGHTdNINEcFORTYcFORTY ONEdTWOdTHREEdFOURdFIVEdSIXdSEVENdEIGHTdNINEcFIFTY",
    "aIDEOGRAPHIC TELEGRAPH SYMBOL FOR JANUARYeFEBRUARYeMARCHeAPRILeMAYeJUNEeJULYeAUGUSTeSEPTEMBER",
    "eOCTOBEReNOVEMBEReDECEMBERaSQUARE HGbERGbEVaLIMITED LIABILITY SIGNaCIRCLED KATAKANA AcIcUcEcO",
    "cKAcKIcKUcKEcKOcSAcSIcSUcSEcSOcTAcTIcTUcTEcTOcNAcNIcNUcNEcNOcHAcHIcHUcHEcHOcMAcMIcMUcMEcMOcYA",
    "cYUcYOcRAcRIcRUcREcROcWAcWIcWEcWOaSQUARE ERA NAME REIWAbAPAATObARUHUAbANPEAbAARUbININGUbINTI",
    "bUONbESUKUUDObEEKAAbONSUbOOMUbKAIRIbKARATTObKARORIIbGARONbGANMAbGIGAbGINIIbKYURIIbGIRUDAA",
    "bKIRObKIROGURAMUbKIROMEETORUbKIROWATTObGURAMUbGURAMUTONbKURUZEIRObKUROONEbKEESUbKORUNAbKOOPO",
    "bSAIKURUbSANTIIMUbSIRINGUbSENTIbSENTObDAASUbDESIbDORUbTONbNANObNOTTObHAITUbPAASENTObPAATU",
    "bBAARERUbPIASUTORUbPIKURUbPIKObBIRUbHUARADDObHUIITObBUSSYERUbHURANbHEKUTAARUbPESObPENIHI",
    "bHERUTUbPENSUbPEEZIbBEETAbPOINTObBORUTObHONbPONDObHOORUbHOONbMAIKURObMAIRUbMAHHAbMARUKU",
    "bMANSYONbMIKURONbMIRIbMIRIBAARUbMEGAbMEGATONbMEETORUbYAADObYAARUbYUANbRITTORUbRIRAbRUPII",
    "bRUUBURUbREMUbRENTOGENbWATTOaIDEOGRAPHIC TELEGRAPH SYMBOL FOR HOUR ZEROfONEfTWOfTHREEfFOUR",
    "fFIVEfSIXfSEVENfEIGHTfNINEfTENfELEVENfTWELVEfTHIRTEENfFOURTEENfFIFTEENfSIXTEENfSEVENTEEN",
    "fEIGHTEENfNINETEENfTWENTYfTWENTY-ONEgTWOgTHREEgFOURaSQUARE HPAbDAbAUbBARbOVbPCbDMbDM SQUARED",
    "cCUBEDbIUbERA NAME HEISEIdSYOUWAdTAISYOUdMEIZIbCORPORATIONbPA AMPSbNAbMU AbMAbKAbKBbMBbGBbCAL",
    "bKCALbPFbNFbMU FcGbMGbKGbHZbKHZbMHZbGHZbTHZbMU LbMLbDLbKLbFMbNMbMU MbMMbCMbKMbMM SQUAREDoCM ",
    "oM oKM bMM CUBEDoCM oM oKM bM OVER SdS SQUAREDbPAbKPAbMPAbGPAbRADbRAD OVER SdS SQUAREDbPSbNS",
    "bMU SbMSbPVbNVbMU VbMVbKVbMV MEGAbPWbNWbMU WbMWbKWbMW MEGAbK OHMoM bAMbBQbCCbCDbC OVER KGbCO",
    "bDBbGYbHAbHPbINbKKbKM CAPITALbKTbLMbLNbLOGbLXbMB SMALLbMILbMOLbPHbPMbPPMbPRbSRbSVbWBbV OVER M",
    "oA aIDEOGRAPHIC TELEGRAPH SYMBOL FOR DAY ONEfTWOfTHREEfFOURfFIVEfSIXfSEVENfEIGHTfNINEfTEN",
    "fELEVENfTWELVEfTHIRTEENfFOURTEENfFIFTEENfSIXTEENfSEVENTEENfEIGHTEENfNINETEENfTWENTY",
    "fTWENTY-ONEgTWOgTHREEgFOURgFIVEgSIXgSEVENgEIGHTgNINEfTHIRTYfTHIRTY-ONEaSQUARE GAL",
    "4DC0aHEXAGRAM FOR THE CREATIVE HEAVENdRECEPTIVE EARTHcDIFFICULTY AT THE BEGINNING",
    "cYOUTHFUL FOLLYcWAITINGcCONFLICTcTHE ARMYcHOLDING TOGETHERcSMALL TAMINGcTREADINGcPEACE",
    "cSTANDSTILLcFELLOWSHIPcGREAT POSSESSIONcMODESTYcENTHUSIASMcFOLLOWINGcWORK ON THE DECAYED",
    "cAPPROACHcCONTEMPLATIONcBITING THROUGHcGRACEcSPLITTING APARTcRETURNcINNOCENCEcGREAT TAMING",
    "cMOUTH CORNERScGREAT PREPONDERANCEcTHE ABYSMAL WATERdCLINGING FIREcINFLUENCEcDURATIONcRETREAT",
    "cGREAT POWERcPROGRESScDARKENING OF THE LIGHTcTHE FAMILYcOPPOSITIONcOBSTRUCTIONcDELIVERANCE",
    "cDECREASEcINCREASEcBREAKTHROUGHcCOMING TO MEETcGATHERING TOGETHERcPUSHING UPWARDcOPPRESSION",
    "cTHE WELLcREVOLUTIONcTHE CAULDRONdAROUSING THUNDERdKEEPING STILL MOUNTAINcDEVELOPMENT",
    "cTHE MARRYING MAIDENcABUNDANCEcTHE WANDERERdGENTLE WINDdJOYOUS LAKEcDISPERSIONcLIMITATION",
    "cINNER TRUTHcSMALL PREPONDERANCEcAFTER COMPLETIONpBEFORE ",
    "A000aYI SYLLABLE ITcIXcIcIPcIETcIEXcIEcIEPcATcAXcAcAPcUOXcUOcUOPcOTcOXcOcOPcEXcEcWUcBITcBIX",
    "cBIcBIPcBIETcBIEXcBIEcBIEPcBATcBAXcBAcBAPcBUOXcBUOcBUOPcBOTcBOXcBOcBOPcBEXcBEcBEPcBUTcBUXcBU",
    "cBUPcBURXcBURcBYTcBYXcBYcBYPcBYRXcBYRcPITcPIXcPIcPIPcPIEXcPIEcPIEPcPATcPAXcPAcPAPcPUOXcPUO",
    "cPUOPcPOTcPOXcPOcPOPcPUTcPUXcPUcPUPcPURXcPURcPYTcPYXcPYcPYPcPYRXcPYRcBBITcBBIXcBBIcBBIPcBBIET",
    "cBBIEXcBBIEcBBIEPcBBATcBBAXcBBAcBBAPcBBUOXcBBUOcBBUOPcBBOTcBBOXcBBOcBBOPcBBEXcBBEcBBEPcBBUT",
    "cBBUXcBBUcBBUPcBBURXcBBURcBBYTcBBYXcBBYcBBYPcNBITcNBIXcNBIcNBIPcNBIEXcNBIEcNBIEPcNBATcNBAX",
    "cNBAcNBAPcNBOTcNBOXcNBOcNBOPcNBUTcNBUXcNBUcNBUPcNBURXcNBURcNBYTcNBYXcNBYcNBYPcNBYRXcNBYRcHMIT",
    "cHMIXcHMIcHMIPcHMIEXcHMIEcHMIEPcHMATcHMAXcHMAcHMAPcHMUOXcHMUOcHMUOPcHMOTcHMOXcHMOcHMOPcHMUT",
    "cHMUXcHMUcHMUPcHMURXcHMURcHMYXcHMYcHMYPcHMYRXcHMYRcMITcMIXcMIcMIPcMIEXcMIEcMIEPcMATcMAXcMA",
    "cMAPcMUOTcMUOXcMUOcMUOPcMOTcMOXcMOcMOPcMEXcMEcMUTcMUXcMUcMUPcMURXcMURcMYTcMYXcMYcMYPcFITcFIX",
    "cFIcFIPcFATcFAXcFAcFAPcFOXcFOcFOPcFUTcFUXcFUcFUPcFURXcFURcFYTcFYXcFYcFYPcVITcVIXcVIcVIPcVIET",
    "cVIEXcVIEcVIEPcVATcVAXcVAcVAPcVOTcVOXcVOcVOPcVEXcVEPcVUTcVUXcVUcVUPcVURXcVURcVYTcVYXcVYcVYP",
    "cVYRXcVYRcDITcDIXcDIcDIPcDIEXcDIEcDIEPcDATcDAXcDAcDAPcDUOXcDUOcDOTcDOXcDOcDOPcDEXcDEcDEPcDUT",
    "cDUXcDUcDUPcDURXcDURcTITcTIXcTIcTIPcTIEXcTIEcTIEPcTATcTAXcTAcTAPcTUOTcTUOXcTUOcTUOPcTOTcTOX",
    "cTOcTOPcTEXcTEcTEPcTUTcTUXcTUcTUPcTURXcTURcDDITcDDIXcDDIcDDIPcDDIEXcDDIEcDDIEPcDDATcDDAXcDDA",
    "cDDAPcDDUOXcDDUOcDDUOPcDDOTcDDOXcDDOcDDOPcDDEXcDDEcDDEPcDDUTcDDUXcDDUcDDUPcDDURXcDDURcNDIT",
    "cNDIXcNDIcNDIPcNDIEXcNDIEcNDATcNDAXcNDAcNDAPcNDOTcNDOXcNDOcNDOPcNDEXcNDEcNDEPcNDUTcNDUXcNDU",
    "cNDUPcNDURXcNDURcHNITcHNIXcHNIcHNIPcHNIETcHNIEXcHNIEcHNIEPcHNATcHNAXcHNAcHNAPcHNUOXcHNUOcHNOT",
    "cHNOXcHNOPcHNEXcHNEcHNEPcHNUTcNITcNIXcNIcNIPcNIEXcNIEcNIEPcNAXcNAcNAPcNUOXcNUOcNUOPcNOTcNOX",
    "cNOcNOPcNEXcNEcNEPcNUTcNUXcNUcNUPcNURXcNURcHLITcHLIXcHLIcHLIPcHLIEXcHLIEcHLIEPcHLATcHLAXcHLA",
    "cHLAPcHLUOXcHLUOcHLUOPcHLOXcHLOcHLOPcHLEXcHLEcHLEPcHLUTcHLUXcHLUcHLUPcHLURXcHLURcHLYTcHLYX",
    "cHLYcHLYPcHLYRXcHLYRcLITcLIXcLIcLIPcLIETcLIEXcLIEcLIEPcLATcLAXcLAcLAPcLUOTcLUOXcLUOcLUOPcLOT",
    "cLOXcLOcLOPcLEXcLEcLEPcLUTcLUXcLUcLUPcLURXcLURcLYTcLYXcLYcLYPcLYRXcLYRcGITcGIXcGIcGIPcGIET",
    "cGIEXcGIEcGIEPcGATcGAXcGAcGAPcGUOTcGUOXcGUOcGUOPcGOTcGOXcGOcGOPcGETcGEXcGEcGEPcGUTcGUXcGUcGUP",
    "cGURXcGURcKITcKIXcKIcKIPcKIEXcKIEcKIEPcKATcKAXcKAcKAPcKUOXcKUOcKUOPcKOTcKOXcKOcKOPcKETcKEXcKE",
    "cKEPcKUTcKUXcKUcKUPcKURXcKURcGGITcGGIXcGGIcGGIEXcGGIEcGGIEPcGGATcGGAXcGGAcGGAPcGGUOTcGGUOX",
    "cGGUOcGGUOPcGGOTcGGOXcGGOcGGOPcGGETcGGEXcGGEcGGEPcGGUTcGGUXcGGUcGGUPcGGURXcGGURcMGIEXcMGIE",
    "cMGATcMGAXcMGAcMGAPcMGUOXcMGUOcMGUOPcMGOTcMGOXcMGOcMGOPcMGEXcMGEcMGEPcMGUTcMGUXcMGUcMGUP",
    "cMGURXcMGURcHXITcHXIXcHXIcHXIPcHXIETcHXIEXcHXIEcHXIEPcHXATcHXAXcHXAcHXAPcHXUOTcHXUOXcHXUO",
    "cHXUOPcHXOTcHXOXcHXOcHXOPcHXEXcHXEcHXEPcNGIEXcNGIEcNGIEPcNGATcNGAXcNGAcNGAPcNGUOTcNGUOXcNGUO",
    "cNGOTcNGOXcNGOcNGOPcNGEXcNGEcNGEPcHITcHIEXcHIEcHATcHAXcHAcHAPcHUOTcHUOXcHUOcHUOPcHOTcHOXcHO",
    "cHOPcHEXcHEcHEPcWATcWAXcWAcWAPcWUOXcWUOcWUOPcWOXcWOcWOPcWEXcWEcWEPcZITcZIXcZIcZIPcZIEXcZIE",
    "cZIEPcZATcZAXcZAcZAPcZUOXcZUOcZUOPcZOTcZOXcZOcZOPcZEXcZEcZEPcZUTcZUXcZUcZUPcZURXcZURcZYTcZYX",
    "cZYcZYPcZYRXcZYRcCITcCIXcCIcCIPcCIETcCIEXcCIEcCIEPcCATcCAXcCAcCAPcCUOXcCUOcCUOPcCOTcCOXcCO",
    "cCOPcCEXcCEcCEPcCUTcCUXcCUcCUPcCURXcCURcCYTcCYXcCYcCYPcCYRXcCYRcZZITcZZIXcZZIcZZIPcZZIET",
    "cZZIEXcZZIEcZZIEPcZZATcZZAXcZZAcZZAPcZZOXcZZOcZZOPcZZEXcZZEcZZEPcZZUXcZZUcZZUPcZZURXcZZUR",
    "cZZYTcZZYXcZZYcZZYPcZZYRXcZZYRcNZITcNZIXcNZIcNZIPcNZIEXcNZIEcNZIEPcNZATcNZAXcNZAcNZAPcNZUOX",
    "cNZUOcNZOXcNZOPcNZEXcNZEcNZUXcNZUcNZUPcNZURXcNZURcNZYTcNZYXcNZYcNZYPcNZYRXcNZYRcSITcSIXcSI",
    "cSIPcSIEXcSIEcSIEPcSATcSAXcSAcSAPcSUOXcSUOcSUOPcSOTcSOXcSOcSOPcSEXcSEcSEPcSUTcSUXcSUcSUPcSURX",
    "cSURcSYTcSYXcSYcSYPcSYRXcSYRcSSITcSSIXcSSIcSSIPcSSIEXcSSIEcSSIEPcSSATcSSAXcSSAcSSAPcSSOTcSSOX",
    "cSSOcSSOPcSSEXcSSEcSSEPcSSUTcSSUXcSSUcSSUPcSSYTcSSYXcSSYcSSYPcSSYRXcSSYRcZHATcZHAXcZHAcZHAP",
    "cZHUOXcZHUOcZHUOPcZHOTcZHOXcZHOcZHOPcZHETcZHEXcZHEcZHEPcZHUTcZHUXcZHUcZHUPcZHURXcZHURcZHYT",
    "cZHYXcZHYcZHYPcZHYRXcZHYRcCHATcCHAXcCHAcCHAPcCHUOTcCHUOXcCHUOcCHUOPcCHOTcCHOXcCHOcCHOPcCHET",
    "cCHEXcCHEcCHEPcCHUXcCHUcCHUPcCHURXcCHURcCHYTcCHYXcCHYcCHYPcCHYRXcCHYRcRRAXcRRAcRRUOXcRRUO",
    "cRROTcRROXcRROcRROPcRRETcRREXcRREcRREPcRRUTcRRUXcRRUcRRUPcRRURXcRRURcRRYTcRRYXcRRYcRRYPcRRYRX",
    "cRRYRcNRATcNRAXcNRAcNRAPcNROXcNROcNROPcNRETcNREXcNREcNREPcNRUTcNRUXcNRUcNRUPcNRURXcNRURcNRYT",
    "cNRYXcNRYcNRYPcNRYRXcNRYRcSHATcSHAXcSHAcSHAPcSHUOXcSHUOcSHUOPcSHOTcSHOXcSHOcSHOPcSHETcSHEX",
    "cSHEcSHEPcSHUTcSHUXcSHUcSHUPcSHURXcSHURcSHYTcSHYXcSHYcSHYPcSHYRXcSHYRcRATcRAXcRAcRAPcRUOXcRUO",
    "cRUOPcROTcROXcROcROPcREXcREcREPcRUTcRUXcRUcRUPcRURXcRURcRYTcRYXcRYcRYPcRYRXcRYRcJITcJIXcJI",
    "cJIPcJIETcJIEXcJIEcJIEPcJUOTcJUOXcJUOcJUOPcJOTcJOXcJOcJOPcJUTcJUXcJUcJUPcJURXcJURcJYTcJYXcJY",
    "cJYPcJYRXcJYRcQITcQIXcQIcQIPcQIETcQIEXcQIEcQIEPcQUOTcQUOXcQUOcQUOPcQOTcQOXcQOcQOPcQUTcQUXcQU",
    "cQUPcQURXcQURcQYTcQYXcQYcQYPcQYRXcQYRcJJITcJJIXcJJIcJJIPcJJIETcJJIEXcJJIEcJJIEPcJJUOXcJJUO",
    "cJJUOPcJJOTcJJOXcJJOcJJOPcJJUTcJJUXcJJUcJJUPcJJURXcJJURcJJYTcJJYXcJJYcJJYPcNJITcNJIXcNJIcNJIP",
    "cNJIETcNJIEXcNJIEcNJIEPcNJUOXcNJUOcNJOTcNJOXcNJOcNJOPcNJUXcNJUcNJUPcNJURXcNJURcNJYTcNJYXcNJY",
    "cNJYPcNJYRXcNJYRcNYITcNYIXcNYIcNYIPcNYIETcNYIEXcNYIEcNYIEPcNYUOXcNYUOcNYUOPcNYOTcNYOXcNYO",
    "cNYOPcNYUTcNYUXcNYUcNYUPcXITcXIXcXIcXIPcXIETcXIEXcXIEcXIEPcXUOXcXUOcXOTcXOXcXOcXOPcXYTcXYXcXY",
    "cXYPcXYRXcXYRcYITcYIXcYIcYIPcYIETcYIEXcYIEcYIEPcYUOTcYUOXcYUOcYUOPcYOTcYOXcYOcYOPcYUTcYUXcYU",
    "cYUPcYURXcYURcYYTcYYXcYYcYYPcYYRXcYYR",
    "A490bRADICAL QOTcLIcKITcNYIPcCYPcSSIcGGOPcGEPcMIcHXITcLYRcBBUTcMOPcYOcPUTcHXUOcTATcGAcZUPcCYT",
    "cDDURcBURcGGUOcNYOPcTUcOPcJJUTcZOTcPYTcHMOcYITcVURcSHYcVEPcZAcJOcNZUPcJJYcGOTcJJIEcWOcDUcSHUR",
    "cLIEcCYcCUOPcCIPcHXOPcSHATcZURcSHOPcCHEcZZIETcNBIEcKE",
    "A4D0aLISU LETTER BAcPAcPHAcDAcTAcTHAcGAcKAcKHAcJAcCAcCHAcDZAcTSAcTSHAcMAcNAcLAcSAcZHAcZAcNGA",
    "cHAcXAcHHAcFAcWAcSHAcYAcGHAcAcAEcEcEUcIcOcUcUEcUHcOEcTONE MYA TIdNA POdMYA CYAeBOeNAeJEU",
    "bPUNCTUATION COMMAcFULL STOPaVAI SYLLABLE EEcEENcHEEcWEEcWEENcPEEcBHEEcBEEcMBEEcKPEEcMGBEE",
    "cGBEEcFEEcVEEcTEEcTHEEcDHEEcDHHEEcLEEcREEcDEEcNDEEcSEEcSHEEcZEEcZHEEcCEEcJEEcNJEEcYEEcKEE",
    "cNGGEEcGEEcMEEcNEEcNYEEcIcINcHIcHINcWIcWINcPIcBHIcBIcMBIcKPIcMGBIcGBIcFIcVIcTIcTHIcDHIcDHHI",
    "cLIcRIcDIcNDIcSIcSHIcZIcZHIcCIcJIcNJIcYIcKIcNGGIcGIcMIcNIcNYIcAcANcNGANcHAcHANcWAcWANcPAcBHA",
    "cBAcMBAcKPAcKPANcMGBAcGBAcFAcVAcTAcTHAcDHAcDHHAcLAcRAcDAcNDAcSAcSHAcZAcZHAcCAcJAcNJAcYAcKA",
    "cKANcNGGAcGAcMAcNAcNYAcOOcOONcHOOcWOOcWOONcPOOcBHOOcBOOcMBOOcKPOOcMGBOOcGBOOcFOOcVOOcTOOcTHOO",
    "cDHOOcDHHOOcLOOcROOcDOOcNDOOcSOOcSHOOcZOOcZHOOcCOOcJOOcNJOOcYOOcKOOcNGGOOcGOOcMOOcNOOcNYOOcU",
    "cUNcHUcHUNcWUcWUNcPUcBHUcBUcMBUcKPUcMGBUcGBUcFUcVUcTUcTHUcDHUcDHHUcLUcRUcDUcNDUcSUcSHUcZUcZHU",
    "cCUcJUcNJUcYUcKUcNGGUcGUcMUcNUcNYUcOcONcNGONcHOcHONcWOcWONcPOcBHOcBOcMBOcKPOcMGBOcGBOcGBONcFO",
    "cVOcTOcTHOcDHOcDHHOcLOcROcDOcNDOcSOcSHOcZOcZHOcCOcJOcNJOcYOcKOcNGGOcGOcMOcNOcNYOcEcENcNGENcHE",
    "cHENcWEcWENcPEcBHEcBEcMBEcKPEcKPENcMGBEcGBEcGBENcFEcVEcTEcTHEcDHEcDHHEcLEcREcDEcNDEcSEcSHEcZE",
    "cZHEcCEcJEcNJEcYEcKEcNGGEcNGGENcGEcGENcMEcNEcNYEcNGcLENGTHENERbCOMMAbFULL STOPbQUESTION MARK",
    "bSYLLABLE NDOLE FAdKAdSOObSYMBOL FEENGcKEENGcTINGcNIIcBANGcFAAcTAAcDANGcDOONGcKUNGcTONGcDO-O",
    "cJONGbDIGIT ZEROcONEcTWOcTHREEcFOURcFIVEcSIXcSEVENcEIGHTcNINEbSYLLABLE NDOLE MAdDO",
    "A640aCYRILLIC CAPITAL LETTER ZEMLYAoSMALL bCAPITAL LETTER DZELOoSMALL ",
    "bCAPITAL LETTER REVERSED DZEoSMALL bCAPITAL LETTER IOTAoSMALL bCAPITAL LETTER DJERVoSMALL ",
    "bCAPITAL LETTER MONOGRAPH UKoSMALL bCAPITAL LETTER BROAD OMEGAoSMALL ",
    "bCAPITAL LETTER NEUTRAL YERoSMALL bCAPITAL LETTER YERU WITH BACK YERoSMALL ",
    "bCAPITAL LETTER IOTIFIED YAToSMALL bCAPITAL LETTER REVERSED YUoSMALL ",
    "bCAPITAL LETTER IOTIFIED AoSMALL bCAPITAL LETTER CLOSED LITTLE YUSoSMALL ",
    "bCAPITAL LETTER BLENDED YUSoSMALL bCAPITAL LETTER IOTIFIED CLOSED LITTLE YUSoSMALL ",
    "bCAPITAL LETTER YNoSMALL bCAPITAL LETTER REVERSED TSEoSMALL bCAPITAL LETTER SOFT DEoSMALL ",
    "bCAPITAL LETTER SOFT ELoSMALL bCAPITAL LETTER SOFT EMoSMALL bCAPITAL LETTER MONOCULAR O",
    "oSMALL oCAPITAL LETTER BINOCULAR oSMALL bCAPITAL LETTER DOUBLE MONOCULAR OoSMALL ",
    "bLETTER MULTIOCULAR OaCOMBINING CYRILLIC VZMETcTEN MILLIONS SIGNpHUNDRED pTHOUSAND ",
    "aSLAVONIC ASTERISKaCOMBINING CYRILLIC LETTER UKRAINIAN IEdIdYIdUdHARD SIGNdYERUdSOFT SIGN",
    "dOMEGAcKAVYKAcPAYEROKaCYRILLIC KAVYKAbPAYEROKbCAPITAL LETTER DWEoSMALL bCAPITAL LETTER DZWE",
    "oSMALL bCAPITAL LETTER ZHWEoSMALL bCAPITAL LETTER CCHEoSMALL bCAPITAL LETTER DZZEoSMALL ",
    "bCAPITAL LETTER TE WITH MIDDLE HOOKoSMALL bCAPITAL LETTER TWEoSMALL bCAPITAL LETTER TSWE",
    "oSMALL bCAPITAL LETTER TSSEoSMALL bCAPITAL LETTER TCHEoSMALL bCAPITAL LETTER HWEoSMALL ",
    "bCAPITAL LETTER SHWEoSMALL bCAPITAL LETTER DOUBLE OoSMALL oCAPITAL LETTER CROSSED oSMALL ",
    "aMODIFIER LETTER CYRILLIC HARD SIGNqSOFT aCOMBINING CYRILLIC LETTER EFdIOTIFIED E",
    "aBAMUM LETTER AcKAcUcKUcEEcREEcTAEcOcNYIcIcLAcPAcRIIcRIEEcLEEEEcMEEEEcTAAcNDAAcNJAEMcMcSUUcMU",
    "cSHIIcSIcSHEUXcSEUXcKYEEcKETcNUAEcNUcNJUAEcYOQcSHUcYUQcYAcNSHAcKEUXcPEUXcNJEEcNTEEcPUEcWUE",
    "cPEEcFEEcRUcLUcMIcNIcREUXcRAEcKENcNGKWAENcNGGAcNGAcSHOcPUAEcFUcFOMcWAcNAcLIcPIcLOQcKOcMBEN",
    "cRENcMENcMAcTIcKIcMOcMBAAcTETcKPAcTENcNTUUcSAMBAcFAAMAEcKOVUUcKOGHOMbCOMBINING MARK KOQNDON",
    "dTUKWENTISbNJAEMLIbFULL STOPbCOLONbCOMMAbSEMICOLONbQUESTION MARK",
    "A700aMODIFIER LETTER CHINESE TONE YIN PINGrYANG eYIN SHANGrYANG eYIN QUrYANG eYIN RUrYANG ",
    "cEXTRA-HIGH DOTTED TONE BARcHIGH DOTTED TONE BARpMID pLOW cEXTRA-LOW DOTTED TONE BAR",
    "dHIGH DOTTED LEFT-STEM TONE BARcHIGH DOTTED LEFT-STEM TONE BARpMID pLOW ",
    "cEXTRA-LOW DOTTED LEFT-STEM TONE BARdHIGH LEFT-STEM TONE BARcHIGH LEFT-STEM TONE BARpMID ",
    "pLOW cEXTRA-LOW LEFT-STEM TONE BARcDOT VERTICAL BARdSLASHdHORIZONTAL BAR",
    "cLOWER RIGHT CORNER ANGLEcRAISED UP ARROWqDOWN dEXCLAMATION MARKdINVERTED EXCLAMATION MARK",
    "pLOW cSTRESS AND HIGH TONErLOW aLATIN CAPITAL LETTER EGYPTOLOGICAL ALEFoSMALL ",
    "bCAPITAL LETTER EGYPTOLOGICAL AINoSMALL bCAPITAL LETTER HENGoSMALL bCAPITAL LETTER TZoSMALL ",
    "bCAPITAL LETTER TRESILLOoSMALL bCAPITAL LETTER CUATRILLOoSMALL ",
    "bCAPITAL LETTER CUATRILLO WITH COMMAoSMALL bLETTER SMALL CAPITAL FeSbCAPITAL LETTER AAoSMALL ",
    "bCAPITAL LETTER AOoSMALL bCAPITAL LETTER AUoSMALL bCAPITAL LETTER AVoSMALL ",
    "bCAPITAL LETTER AV WITH HORIZONTAL BARoSMALL bCAPITAL LETTER AYoSMALL ",
    "bCAPITAL LETTER REVERSED C WITH DOToSMALL bCAPITAL LETTER K WITH STROKEoSMALL ",
    "bCAPITAL LETTER K WITH DIAGONAL STROKEoSMALL ",
    "bCAPITAL LETTER K WITH STROKE AND DIAGONAL STROKEoSMALL bCAPITAL LETTER BROKEN LoSMALL ",
    "bCAPITAL LETTER L WITH HIGH STROKEoSMALL bCAPITAL LETTER O WITH LONG STROKE OVERLAYoSMALL ",
    "bCAPITAL LETTER O WITH LOOPoSMALL bCAPITAL LETTER OOoSMALL ",
    "bCAPITAL LETTER P WITH STROKE THROUGH DESCENDERoSMALL bCAPITAL LETTER P WITH FLOURISHoSMALL ",
    "bCAPITAL LETTER P WITH SQUIRREL TAILoSMALL bCAPITAL LETTER Q WITH STROKE THROUGH DESCENDER",
    "oSMALL bCAPITAL LETTER Q WITH DIAGONAL STROKEoSMALL bCAPITAL LETTER R ROTUNDAoSMALL ",
    "oCAPITAL LETTER RUM oSMALL bCAPITAL LETTER V WITH DIAGONAL STROKEoSMALL bCAPITAL LETTER VY",
    "oSMALL bCAPITAL LETTER VISIGOTHIC ZoSMALL bCAPITAL LETTER THORN WITH STROKEoSMALL ",
    "bCAPITAL LETTER THORN WITH STROKE THROUGH DESCENDERoSMALL bCAPITAL LETTER VENDoSMALL ",
    "bCAPITAL LETTER EToSMALL bCAPITAL LETTER ISoSMALL bCAPITAL LETTER CONoSMALL ",
    "aMODIFIER LETTER USaLATIN SMALL LETTER DUMdLUMdMUMdNUMdRUMbLETTER SMALL CAPITAL RUM",
    "bSMALL LETTER TUMdUMbCAPITAL LETTER INSULAR DoSMALL bCAPITAL LETTER INSULAR FoSMALL ",
    "bCAPITAL LETTER INSULAR GdTURNED INSULAR GoSMALL bCAPITAL LETTER TURNED LoSMALL ",
    "bCAPITAL LETTER INSULAR RoSMALL bCAPITAL LETTER INSULAR SoSMALL bCAPITAL LETTER INSULAR T",
    "oSMALL aMODIFIER LETTER LOW CIRCUMFLEX ACCENTcCOLONcSHORT EQUALS SIGN",
    "aLATIN CAPITAL LETTER SALTILLOoSMALL bCAPITAL LETTER TURNED H",
    "bSMALL LETTER L WITH RETROFLEX HOOK AND BELTbLETTER SINOLOGICAL DOT",
    "bCAPITAL LETTER N WITH DESCENDERoSMALL bCAPITAL LETTER C WITH BARoSMALL fPALATAL HOOKqH ",
    "bCAPITAL LETTER B WITH FLOURISHoSMALL bCAPITAL LETTER F WITH STROKEoSMALL ",
    "bCAPITAL LETTER VOLAPUK AEoSMALL bCAPITAL LETTER VOLAPUK OEoSMALL bCAPITAL LETTER VOLAPUK UE",
    "oSMALL bCAPITAL LETTER G WITH OBLIQUE STROKEoSMALL oCAPITAL LETTER K oSMALL ",
    "oCAPITAL LETTER N oSMALL oCAPITAL LETTER R oSMALL oCAPITAL LETTER S oSMALL ",
    "bCAPITAL LETTER H WITH HOOKdREVERSED OPEN EdSCRIPT GdL WITH BELTdSMALL CAPITAL I",
    "bLETTER SMALL CAPITAL QbCAPITAL LETTER TURNED KeTdJ WITH CROSSED-TAILdCHIdBETAoSMALL ",
    "bCAPITAL LETTER OMEGAoSMALL bCAPITAL LETTER U WITH STROKEoSMALL bCAPITAL LETTER GLOTTAL A",
    "oSMALL bCAPITAL LETTER GLOTTAL IoSMALL bCAPITAL LETTER GLOTTAL UoSMALL ",
    "bCAPITAL LETTER OLD POLISH OoSMALL bCAPITAL LETTER ANGLICANA WoSMALL ",
    "bCAPITAL LETTER C WITH PALATAL HOOKdS WITH HOOKdZ WITH PALATAL HOOK",
    "dD WITH SHORT STROKE OVERLAYoSMALL oCAPITAL LETTER S oSMALL ",
    "A7D0bCAPITAL LETTER CLOSED INSULAR GoSMALL ", "A7D3dDOUBLE THORN",
    "A7D5eWYNNbCAPITAL LETTER MIDDLE SCOTS SoSMALL bCAPITAL LETTER SIGMOID SoSMALL ",
    "A7F2aMODIFIER LETTER CAPITAL CdFdQaLATIN CAPITAL LETTER REVERSED HALF HoSMALL ",
    "bEPIGRAPHIC LETTER SIDEWAYS IaMODIFIER LETTER CAPITAL H WITH STROKEcSMALL LIGATURE OE",
    "aLATIN LETTER SMALL CAPITAL TURNED MbEPIGRAPHIC LETTER REVERSED FePdINVERTED MdI LONGA",
    "dARCHAIC MaSYLOTI NAGRI LETTER AdIcSIGN DVISVARAcLETTER UdEdOcSIGN HASANTAcLETTER KOdKHOdGO",
    "dGHOcSIGN ANUSVARAcLETTER COdCHOdJOdJHOdTTOdTTHOdDDOdDDHOdTOdTHOdDOdDHOdNOdPOdPHOdBOdBHOdMO",
    "dROdLOdRROdSOdHOcVOWEL SIGN AeIeUeEeOOcPOETRY MARK-1e2e3e4cSIGN ALTERNATE HASANTA",
    "A830aNORTH INDIC FRACTION ONE QUARTEReHALFdTHREE QUARTERSdONE SIXTEENTHeEIGHTH",
    "dTHREE SIXTEENTHScQUARTER MARKpPLACEHOLDER pRUPEE pQUANTITY ",
    "A840aPHAGS-PA LETTER KAdKHAdGAdNGAdCAdCHAdJAdNYAdTAdTHAdDAdNAdPAdPHAdBAdMAdTSAdTSHAdDZAdWA",
    "dZHAdZAdSMALL AdYAdRAdLAdSHAdSAdHAdAdIdUdEdOdQAdXAdFAdGGAdEEcSUBJOINED LETTER WAeYA",
    "cLETTER TTAdTTHAdDDAdNNAdALTERNATE YAdVOICELESS SHAdVOICED HAdASPIRATED FA",
    "cSUBJOINED LETTER RApSUPERFIXED cLETTER CANDRABINDUcSINGLE HEAD MARKpDOUBLE cMARK SHAD",
    "dDOUBLE SHAD",
    "A880aSAURASHTRA SIGN ANUSVARAcVISARGAbLETTER AcAAcIcIIcUcUUcVOCALIC RdRRdLdLLcEcEEcAIcOcOOcAU",
    "cKAcKHAcGAcGHAcNGAcCAcCHAcJAcJHAcNYAcTTAcTTHAcDDAcDDHAcNNAcTAcTHAcDAcDHAcNAcPAcPHAcBAcBHAcMA",
    "cYAcRAcLAcVAcSHAcSSAcSAcHAcLLAbCONSONANT SIGN HAARUbVOWEL SIGN AAdIdIIdUdUUdVOCALIC ReRReLeLL",
    "dEdEEdAIdOdOOdAUbSIGN VIRAMAcCANDRABINDU",
    "A8CEbDANDAbDOUBLE DANDAbDIGIT ZEROcONEcTWOcTHREEcFOURcFIVEcSIXcSEVENcEIGHTcNINE",
    "A8E0aCOMBINING DEVANAGARI DIGIT ZEROdONEdTWOdTHREEdFOURdFIVEdSIXdSEVENdEIGHTdNINEcLETTER AdU",
    "dKAdNAdPAdRAdVIcSIGN AVAGRAHAaDEVANAGARI SIGN SPACING CANDRABINDUcCANDRABINDU VIRAMA",
    "cDOUBLE CANDRABINDU VIRAMAcCANDRABINDU TWOdTHREEdAVAGRAHAcPUSHPIKAbGAP FILLERbCARET",
    "bHEADSTROKEbSIGN SIDDHAMbJAIN OMbLETTER AYbVOWEL SIGN AYaKAYAH LI DIGIT ZEROdONEdTWOdTHREE",
    "dFOURdFIVEdSIXdSEVENdEIGHTdNINEcLETTER KAdKHAdGAdNGAdSAdSHAdZAdNYAdTAdHTAdNAdPAdPHAdMAdDAdBA",
    "dRAdYAdLAdWAdTHAdHAdVAdCAdAdOEdIdOOcVOWEL UEdEdUdEEdOcTONE PLOPHUdCALYAdCALYA PLOPHUcSIGN CWI",
    "dSHYAaREJANG LETTER KAcGAcNGAcTAcDAcNAcPAcBAcMAcCAcJAcNYAcSAcRAcLAcYAcWAcHAcMBAcNGGAcNDAcNYJA",
    "cAbVOWEL SIGN IdUdEdAIdOdAUdEUdEAbCONSONANT SIGN NGdNdRdHbVIRAMA",
    "A95FbSECTION MARKaHANGUL CHOSEONG TIKEUT-MIEUMdPIEUPdSIOSdCIEUCcRIEUL-KIYEOKdSSANGKIYEOK",
    "dTIKEUTdSSANGTIKEUTdMIEUMdPIEUPdSSANGPIEUPdKAPYEOUNPIEUPdSIOSdCIEUCdKHIEUKHcMIEUM-KIYEOK",
    "dTIKEUTdSIOScPIEUP-SIOS-THIEUTHdKHIEUKHdHIEUHcSSANGSIOS-PIEUPcIEUNG-RIEULdHIEUHpSSANGCIEUC-",
    "cSSANGTHIEUTHcPHIEUPH-HIEUHcHIEUH-SIOScSSANGYEORINHIEUH",
    "A980aJAVANESE SIGN PANYANGGAcCECAKcLAYARcWIGNYANbLETTER AcI KAWIcIcIIcUcPA CEREKcNGA LELET",
    "dLELET RASWADIcEcAIcOcKAcKA SASAKdMURDAcGAcGA MURDAcNGAcCAcCA MURDAcJAcNYA MURDAcJA MAHAPRANA",
    "cNYAcTTAcTTA MAHAPRANAcDDAcDDA MAHAPRANAcNA MURDAcTAcTA MURDAcDAcDA MAHAPRANAcNAcPAcPA MURDA",
    "cBAcBA MURDAcMAcYAcRAcRA AGUNGcLAcWAcSA MURDAdMAHAPRANAcSAcHAbSIGN CECAK TELU",
    "bVOWEL SIGN TARUNGdTOLONGdWULUdWULU MELIKdSUKUdSUKU MENDUTdTALINGdDIRGA MUREdPEPET",
    "bCONSONANT SIGN KERETdPENGKALdCAKRAbPANGKONbLEFT RERENGGANoRIGHT bPADA ANDAPcMADYAcLUHUR",
    "cWINDUcPANGKATcLINGSAcLUNGSIcADEGcADEG ADEGcPISELEHbTURNED PADA PISELEH",
    "A9CFbPANGRANGKEPbDIGIT ZEROcONEcTWOcTHREEcFOURcFIVEcSIXcSEVENcEIGHTcNINE",
    "A9DEbPADA TIRTA TUMETEScISEN-ISENaMYANMAR LETTER SHAN GHAdCHAdJHAdNNAdBHAbSIGN SHAN SAW",
    "bMODIFIER LETTER SHAN REDUPLICATIONbLETTER TAI LAING NYAeFAeGAeGHAeJAeJHAeDDAeDDHAeNNA",
    "bTAI LAING DIGIT ZEROeONEeTWOeTHREEeFOUReFIVEeSIXeSEVENeEIGHTeNINEbLETTER TAI LAING LLAeDA",
    "eDHAeBAeBHA",
    "AA00aCHAM LETTER AcIcUcEcAIcOcKAcKHAcGAcGHAcNGUEcNGAcCHAcCHHAcJAcJHAcNHUEcNHAcNHJAcTAcTHAcDA",
    "cDHAcNUEcNAcDDAcPAcPPAcPHAcBAcBHAcMUEcMAcBBAcYAcRAcLAcVAcSSAcSAcHAbVOWEL SIGN AAdIdIIdEIdUdOE",
    "dOdAIdAUdUEbCONSONANT SIGN YAdRAdLAdWA",
    "AA40bLETTER FINAL KdGdNGbCONSONANT SIGN FINAL NGbLETTER FINAL CHdTdNdPdYdRdLdSS",
    "bCONSONANT SIGN FINAL MeH", "AA50bDIGIT ZEROcONEcTWOcTHREEcFOURcFIVEcSIXcSEVENcEIGHTcNINE",
    "AA5CbPUNCTUATION SPIRALcDANDAcDOUBLE DANDApTRIPLE aMYANMAR LETTER KHAMTI GAdCAdCHAdJAdJHAdNYA",
    "dTTAdTTHAdDDAdDDHAdDHAdNAdSAdHAdHHAdFAbMODIFIER LETTER KHAMTI REDUPLICATIONbLETTER KHAMTI XA",
    "dZAdRAbLOGOGRAM KHAMTI OAYdQNdHMbSYMBOL AITON EXCLAMATIONdONEdTWObLETTER AITON RA",
    "bSIGN PAO KAREN TONEcTAI LAING TONE-2f5bLETTER SHWE PALAUNG CHAeSHAaTAI VIET LETTER LOW KO",
    "qHIGH dLOW KHOqHIGH dLOW KHHOqHIGH dLOW GOqHIGH dLOW NGOqHIGH dLOW COqHIGH dLOW CHOqHIGH ",
    "dLOW SOqHIGH dLOW NYOqHIGH dLOW DOqHIGH dLOW TOqHIGH dLOW THOqHIGH dLOW NOqHIGH dLOW BOqHIGH ",
    "dLOW POqHIGH dLOW PHOqHIGH dLOW FOqHIGH dLOW MOqHIGH dLOW YOqHIGH dLOW ROqHIGH dLOW LOqHIGH ",
    "dLOW VOqHIGH dLOW HOqHIGH dLOW OqHIGH cMAI KANGcVOWEL AAdIdUEdUdEdOcMAI KHITcVOWEL IAdUEAdUA",
    "dAUEdAYdANdAMcTONE MAI EKeNUENGeTHOeSONG",
    "AADBcSYMBOL KONdNUENGdSAMdHO HOIdKOI KOIaMEETEI MAYEK LETTER EdOdCHAdNYAdTTAdTTHAdDDAdDDHA",
    "dNNAdSHAdSSAcVOWEL SIGN IIeUUeAAIeAUeAAUcCHEIKHANcAHANG KHUDAMcANJIcSYLLABLE REPETITION MARK",
    "pWORD cVOWEL SIGN VISARGAcVIRAMA", "AB01aETHIOPIC SYLLABLE TTHUcTTHIcTTHAAcTTHEEcTTHEcTTHO",
    "AB09cDDHUcDDHIcDDHAAcDDHEEcDDHEcDDHO", "AB11cDZUcDZIcDZAAcDZEEcDZEcDZO",
    "AB20cCCHHAcCCHHUcCCHHIcCCHHAAcCCHHEEcCCHHEcCCHHO", "AB28cBBAcBBUcBBIcBBAAcBBEEcBBEcBBO",
    "AB30aLATIN SMALL LETTER BARRED ALPHAdA REVERSED-SCHWAdBLACKLETTER EqBARRED dE WITH FLOURISH",
    "dLENIS FdSCRIPT G WITH CROSSED-TAILdL WITH INVERTED LAZY SfDOUBLE MIDDLE TILDEfMIDDLE RING",
    "dM WITH CROSSED-TAILqN qENG dBLACKLETTER OeO WITH STROKEqOPEN dINVERTED OE",
    "dTURNED OE WITH STROKEgHORIZONTAL STROKEeO OPEN-OgO WITH STROKEdSTIRRUP R",
    "bLETTER SMALL CAPITAL R WITH RIGHT LEGbSMALL LETTER R WITHOUT HANDLEdDOUBLE R",
    "dR WITH CROSSED-TAILdDOUBLE R WITH CROSSED-TAILdSCRIPT ReR WITH RINGdBASELINE ESH",
    "dU WITH SHORT RIGHT LEGeBAR WITH SHORT RIGHT LEGdUIdTURNED UIdU WITH LEFT HOOKdCHI",
    "dCHI WITH LOW RIGHT RINGgLEFT SERIFdX WITH LOW RIGHT RINGfLONG LEFT LEG",
    "hLEG AND LOW RIGHT RINGiWITH SERIFdY WITH SHORT RIGHT LEGaMODIFIER BREVE WITH INVERTED BREVE",
    "bLETTER SMALL HENGdL WITH INVERTED LAZY SfMIDDLE TILDEdU WITH LEFT HOOK",
    "aLATIN SMALL LETTER SAKHA YATdIOTIFIED EdOPEN OEdUOdINVERTED ALPHA",
    "aGREEK LETTER SMALL CAPITAL OMEGAaLATIN SMALL LETTER DZ DIGRAPH WITH RETROFLEX HOOKqTS ",
    "dTURNED R WITH MIDDLE TILDEaMODIFIER LETTER SMALL TURNED WcLEFT TACKpRIGHT ",
    "AB70aCHEROKEE SMALL LETTER AdEdIdOdUdVdGAdKAdGEdGIdGOdGUdGVdHAdHEdHIdHOdHUdHVdLAdLEdLIdLOdLU",
    "dLVdMAdMEdMIdMOdMUdNAdHNAdNAHdNEdNIdNOdNUdNVdQUAdQUEdQUIdQUOdQUUdQUVdSAdSdSEdSIdSOdSUdSVdDA",
    "dTAdDEdTEdDIdTIdDOdDUdDVdDLAdTLAdTLEdTLIdTLOdTLUdTLVdTSAdTSEdTSIdTSOdTSUdTSVdWAdWEdWIdWOdWU",
    "dWVdYAaMEETEI MAYEK LETTER KOKdSAMdLAIdMITdPAdNAdCHILdTILdKHOUdNGOUdTHOUdWAIdYANGdHUKdUNdI",
    "dPHAMdATIYAdGOKdJHAMdRAIdBAdJILdDILdGHOUdDHOUdBHAMdKOK LONSUMqLAI qMIT qPA qNA qTIL qNGOU qI ",
    "cVOWEL SIGN ONAPeINAPeANAPeYENAPeSOUNAPeUNAPeCHEINAPeNUNGcCHEIKHEIcLUM IYEKpAPUN ",
    "ABF0cDIGIT ZEROdONEdTWOdTHREEdFOURdFIVEdSIXdSEVENdEIGHTdNINE",
    "D7B0aHANGUL JUNGSEONG O-YEOdO-IcYO-AdAEdEOcU-YEOdI-IcYU-AEdOcEU-AdEOdEdOcI-YA-OdYAEdYEOdYE",
    "dO-IdYOdYUdIcARAEA-AdE",
    "D7CBbJONGSEONG NIEUN-RIEULdCHIEUCHcSSANGTIKEUTcSSANGTIKEUT-PIEUPpTIKEUT-dSIOSdSIOS-KIYEOK",
    "dCIEUCdCHIEUCHdTHIEUTHcRIEUL-SSANGKIYEOKdKIYEOK-HIEUHcSSANGRIEUL-KHIEUKHcRIEUL-MIEUM-HIEUH",
    "dPIEUP-TIKEUTePHIEUPHdYESIEUNGdYEORINHIEUH-HIEUHcKAPYEOUNRIEULcMIEUM-NIEUNdSSANGNIEUN",
    "cSSANGMIEUMcMIEUM-PIEUP-SIOSdCIEUCcPIEUP-TIKEUTdRIEUL-PHIEUPHdMIEUMcSSANGPIEUP",
    "cPIEUP-SIOS-TIKEUTdCIEUCdCHIEUCHcSIOS-MIEUMdKAPYEOUNPIEUPcSSANGSIOS-KIYEOKdTIKEUT",
    "cSIOS-PANSIOSdCIEUCdCHIEUCHdTHIEUTHdHIEUHcPANSIOS-PIEUPdKAPYEOUNPIEUPcYESIEUNG-MIEUMdHIEUH",
    "cCIEUC-PIEUPdSSANGPIEUPcSSANGCIEUCcPHIEUPH-SIOSdTHIEUTH",
    "FB00aLATIN SMALL LIGATURE FFdFIdFLdFFIdFFLdLONG S TdST",
    "FB13aARMENIAN SMALL LIGATURE MEN NOWeECHeINIdVEW NOWdMEN XEH",
    "FB1DaHEBREW LETTER YOD WITH HIRIQbPOINT JUDEO-SPANISH VARIKAbLIGATURE YIDDISH YOD YOD PATAH",
    "bLETTER ALTERNATIVE AYINcWIDE ALEFdDALETdHEdKAFdLAMEDdFINAL MEMdRESHdTAV",
    "cALTERNATIVE PLUS SIGNcSHIN WITH SHIN DOTrSIN eDAGESH AND SHIN DOTtSIN cALEF WITH PATAH",
    "eQAMATSeMAPIQcBET WITH DAGESHpGIMEL pDALET cHE WITH MAPIQcVAV WITH DAGESHpZAYIN ",
    "FB38pTET pYOD cFINAL KAF WITH DAGESHcKAF WITH DAGESHpLAMED ", "FB3EpMEM ", "FB40pNUN pSAMEKH ",
    "FB43cFINAL PE WITH DAGESHcPE WITH DAGESH",
    "FB46pTSADI pQOF pRESH pSHIN pTAV cVAV WITH HOLAMcBET WITH RAFEpKAF pPE bLIGATURE ALEF LAMED",
    "aARABIC LETTER ALEF WASLA ISOLATED FORMrFINAL cBEEH ISOLATED FORMqFINAL qINITIAL qMEDIAL ",
    "pPEH ISOLATED qFINAL qINITIAL qMEDIAL pBEHEH ISOLATED qFINAL qINITIAL qMEDIAL ",
    "pTTEHEH ISOLATED qFINAL qINITIAL qMEDIAL pTEHEH ISOLATED qFINAL qINITIAL qMEDIAL ",
    "pTTEH ISOLATED qFINAL qINITIAL qMEDIAL pVEH ISOLATED qFINAL qINITIAL qMEDIAL pPEHEH ISOLATED ",
    "qFINAL qINITIAL qMEDIAL pDYEH ISOLATED qFINAL qINITIAL qMEDIAL pNYEH ISOLATED qFINAL ",
    "qINITIAL qMEDIAL pTCHEH ISOLATED qFINAL qINITIAL qMEDIAL pTCHEHEH ISOLATED qFINAL qINITIAL ",
    "qMEDIAL pDDAHAL ISOLATED qFINAL pDAHAL ISOLATED qFINAL pDUL ISOLATED qFINAL pDDAL ISOLATED ",
    "qFINAL pJEH ISOLATED qFINAL pRREH ISOLATED qFINAL pKEHEH ISOLATED qFINAL qINITIAL qMEDIAL ",
    "pGAF ISOLATED qFINAL qINITIAL qMEDIAL pGUEH ISOLATED qFINAL qINITIAL qMEDIAL pNGOEH ISOLATED ",
    "qFINAL qINITIAL qMEDIAL cNOON GHUNNA ISOLATED FORMrFINAL cRNOON ISOLATED FORMqFINAL qINITIAL ",
    "qMEDIAL cHEH WITH YEH ABOVE ISOLATED FORMtFINAL dGOAL ISOLATED FORMrFINAL rINITIAL rMEDIAL ",
    "qDOACHASHMEE ISOLATED rFINAL rINITIAL rMEDIAL pYEH BARREE ISOLATED rFINAL ",
    "eWITH HAMZA ABOVE ISOLATED FORMuFINAL bSYMBOL DOT ABOVEdBELOWcTWO DOTS ABOVEeBELOW",
    "cTHREE DOTS ABOVEeBELOWePOINTING DOWNWARDS ABOVEgBELOWcFOUR DOTS ABOVEeBELOW",
    "cDOUBLE VERTICAL BAR BELOWcTWO DOTS VERTICALLY ABOVEfBELOWcRINGcSMALL TAH ABOVEeBELOW",
    "cWASLA ABOVE",
    "FBD3bLETTER NG ISOLATED FORMqFINAL qINITIAL qMEDIAL pU ISOLATED qFINAL pOE ISOLATED qFINAL ",
    "pYU ISOLATED qFINAL cU WITH HAMZA ABOVE ISOLATED FORMcVE ISOLATED FORMqFINAL ",
    "cKIRGHIZ OE ISOLATED FORMrFINAL qYU ISOLATED rFINAL cE ISOLATED FORMqFINAL qINITIAL qMEDIAL ",
    "cUIGHUR KAZAKH KIRGHIZ ALEF MAKSURA INITIAL FORMuMEDIAL ",
    "bLIGATURE YEH WITH HAMZA ABOVE WITH ALEF ISOLATED FORMvFINAL uAE ISOLATED vFINAL ",
    "uWAW ISOLATED vFINAL uU ISOLATED vFINAL uOE ISOLATED vFINAL uYU ISOLATED vFINAL uE ISOLATED ",
    "vFINAL vINITIAL cUIGHUR KIRGHIZ YEH WITH HAMZA ABOVE WITH ALEF MAKSURA ISOLATED FORMyFINAL ",
    "yINITIAL bLETTER FARSI YEH ISOLATED FORMrFINAL rINITIAL rMEDIAL ",
    "bLIGATURE YEH WITH HAMZA ABOVE WITH JEEM ISOLATED FORMuHAH uMEEM hALEF MAKSURA ISOLATED FORM",
    "hYEH ISOLATED FORMcBEH WITH JEEM ISOLATED FORMrHAH rKHAH rMEEM eALEF MAKSURA ISOLATED FORM",
    "eYEH ISOLATED FORMpTEH WITH JEEM rHAH rKHAH rMEEM eALEF MAKSURA ISOLATED FORM",
    "eYEH ISOLATED FORMpTHEH WITH JEEM rMEEM eALEF MAKSURA ISOLATED FORMeYEH ISOLATED FORM",
    "pJEEM WITH HAH rMEEM pHAH WITH JEEM rMEEM pKHAH WITH JEEM rHAH rMEEM pSEEN WITH JEEM rHAH ",
    "rKHAH rMEEM pSAD WITH HAH rMEEM pDAD WITH JEEM rHAH rKHAH rMEEM pTAH WITH HAH rMEEM pZAH ",
    "pAIN WITH JEEM rMEEM pGHAIN WITH JEEM rMEEM pFEH WITH JEEM rHAH rKHAH rMEEM ",
    "eALEF MAKSURA ISOLATED FORMeYEH ISOLATED FORMpQAF WITH HAH rMEEM eALEF MAKSURA ISOLATED FORM",
    "eYEH ISOLATED FORMpKAF WITH ALEF rJEEM rHAH rKHAH rLAM rMEEM eALEF MAKSURA ISOLATED FORM",
    "eYEH ISOLATED FORMpLAM WITH JEEM rHAH rKHAH rMEEM eALEF MAKSURA ISOLATED FORM",
    "eYEH ISOLATED FORMpMEEM WITH JEEM rHAH rKHAH rMEEM eALEF MAKSURA ISOLATED FORM",
    "eYEH ISOLATED FORMpNOON WITH JEEM rHAH rKHAH rMEEM eALEF MAKSURA ISOLATED FORM",
    "eYEH ISOLATED FORMpHEH WITH JEEM rMEEM eALEF MAKSURA ISOLATED FORMeYEH ISOLATED FORM",
    "pYEH WITH JEEM rHAH rKHAH rMEEM eALEF MAKSURA ISOLATED FORMeYEH ISOLATED FORM",
    "cTHAL WITH SUPERSCRIPT ALEF ISOLATED FORMpREH ",
    "cALEF MAKSURA WITH SUPERSCRIPT ALEF ISOLATED FORMcSHADDA WITH DAMMATAN ISOLATED FORM",
    "rKASRATAN rFATHA rDAMMA rKASRA eSUPERSCRIPT ALEF ISOLATED FORM",
    "cYEH WITH HAMZA ABOVE WITH REH FINAL FORMuZAIN uMEEM uNOON hALEF MAKSURA FINAL FORM",
    "hYEH FINAL FORMcBEH WITH REH FINAL FORMrZAIN rMEEM rNOON eALEF MAKSURA FINAL FORM",
    "eYEH FINAL FORMpTEH WITH REH rZAIN rMEEM rNOON eALEF MAKSURA FINAL FORMeYEH FINAL FORM",
    "pTHEH WITH REH rZAIN rMEEM rNOON eALEF MAKSURA FINAL FORMeYEH FINAL FORM",
    "cFEH WITH ALEF MAKSURA FINAL FORMeYEH FINAL FORMcQAF WITH ALEF MAKSURA FINAL FORM",
    "eYEH FINAL FORMpKAF WITH ALEF rLAM rMEEM eALEF MAKSURA FINAL FORMeYEH FINAL FORM",
    "pLAM WITH MEEM eALEF MAKSURA FINAL FORMeYEH FINAL FORMpMEEM WITH ALEF rMEEM pNOON WITH REH ",
    "rZAIN rMEEM rNOON eALEF MAKSURA FINAL FORMeYEH FINAL FORM",
    "cALEF MAKSURA WITH SUPERSCRIPT ALEF FINAL FORMcYEH WITH REH FINAL FORMrZAIN rMEEM rNOON ",
    "eALEF MAKSURA FINAL FORMeYEH FINAL FORMeHAMZA ABOVE WITH JEEM INITIAL FORMuHAH uKHAH uMEEM ",
    "uHEH cBEH WITH JEEM INITIAL FORMrHAH rKHAH rMEEM rHEH pTEH WITH JEEM rHAH rKHAH rMEEM rHEH ",
    "pTHEH WITH MEEM pJEEM WITH HAH rMEEM pHAH WITH JEEM rMEEM pKHAH WITH JEEM rMEEM ",
    "pSEEN WITH JEEM rHAH rKHAH rMEEM pSAD WITH HAH rKHAH rMEEM pDAD WITH JEEM rHAH rKHAH rMEEM ",
    "pTAH WITH HAH pZAH WITH MEEM pAIN WITH JEEM rMEEM pGHAIN WITH JEEM rMEEM pFEH WITH JEEM rHAH ",
    "rKHAH rMEEM pQAF WITH HAH rMEEM pKAF WITH JEEM rHAH rKHAH rLAM rMEEM pLAM WITH JEEM rHAH ",
    "rKHAH rMEEM rHEH pMEEM WITH JEEM rHAH rKHAH rMEEM pNOON WITH JEEM rHAH rKHAH rMEEM rHEH ",
    "pHEH WITH JEEM rMEEM eSUPERSCRIPT ALEF INITIAL FORMcYEH WITH JEEM INITIAL FORMrHAH rKHAH ",
    "rMEEM rHEH eHAMZA ABOVE WITH MEEM MEDIAL FORMuHEH cBEH WITH MEEM MEDIAL FORMrHEH ",
    "pTEH WITH MEEM rHEH pTHEH WITH MEEM rHEH pSEEN WITH MEEM rHEH pSHEEN WITH MEEM rHEH ",
    "pKAF WITH LAM rMEEM pLAM pNOON rHEH pYEH WITH MEEM rHEH pSHADDA WITH FATHA rDAMMA rKASRA ",
    "cTAH WITH ALEF MAKSURA ISOLATED FORMeYEH ISOLATED FORMcAIN WITH ALEF MAKSURA ISOLATED FORM",
    "eYEH ISOLATED FORMcGHAIN WITH ALEF MAKSURA ISOLATED FORMeYEH ISOLATED FORM",
    "cSEEN WITH ALEF MAKSURA ISOLATED FORMeYEH ISOLATED FORMcSHEEN WITH ALEF MAKSURA ISOLATED FORM",
    "eYEH ISOLATED FORMcHAH WITH ALEF MAKSURA ISOLATED FORMeYEH ISOLATED FORM",
    "cJEEM WITH ALEF MAKSURA ISOLATED FORMeYEH ISOLATED FORMcKHAH WITH ALEF MAKSURA ISOLATED FORM",
    "eYEH ISOLATED FORMcSAD WITH ALEF MAKSURA ISOLATED FORMeYEH ISOLATED FORM",
    "cDAD WITH ALEF MAKSURA ISOLATED FORMeYEH ISOLATED FORMpSHEEN WITH JEEM rHAH rKHAH rMEEM rREH ",
    "pSEEN pSAD pDAD cTAH WITH ALEF MAKSURA FINAL FORMeYEH FINAL FORM",
    "cAIN WITH ALEF MAKSURA FINAL FORMeYEH FINAL FORMcGHAIN WITH ALEF MAKSURA FINAL FORM",
    "eYEH FINAL FORMcSEEN WITH ALEF MAKSURA FINAL FORMeYEH FINAL FORM",
    "cSHEEN WITH ALEF MAKSURA FINAL FORMeYEH FINAL FORMcHAH WITH ALEF MAKSURA FINAL FORM",
    "eYEH FINAL FORMcJEEM WITH ALEF MAKSURA FINAL FORMeYEH FINAL FORM",
    "cKHAH WITH ALEF MAKSURA FINAL FORMeYEH FINAL FORMcSAD WITH ALEF MAKSURA FINAL FORM",
    "eYEH FINAL FORMcDAD WITH ALEF MAKSURA FINAL FORMeYEH FINAL FORMpSHEEN WITH JEEM rHAH rKHAH ",
    "rMEEM rREH pSEEN pSAD pDAD pSHEEN WITH JEEM INITIAL rHAH rKHAH rMEEM pSEEN WITH HEH pSHEEN ",
    "pTAH WITH MEEM pSEEN WITH JEEM MEDIAL rHAH rKHAH pSHEEN WITH JEEM rHAH rKHAH pTAH WITH MEEM ",
    "pZAH pALEF WITH FATHATAN FINAL sISOLATED aORNATE LEFT PARENTHESISoRIGHT ",
    "aARABIC LIGATURE RAHIMAHU ALLAAHcRADI ALLAAHU ANHeANHAAeANHUMeANHUMAAeANHUNNA",
    "cSALLALLAAHU ALAYHI WA-AALIHcALAYHI AS-SALAAMpALAYHIM pALAYHIMAA ",
    "cALAYHI AS-SALAATU WAS-SALAAMcQUDDISA SIRRAHcSALLALLAHU ALAYHI WAAALIHEE WA-SALLAM",
    "cALAYHAA AS-SALAAMcTABAARAKA WA-TAAALAAcRAHIMAHUM ALLAAHcTEH WITH JEEM WITH MEEM INITIAL FORM",
    "rHAH WITH JEEM FINAL uINITIAL tMEEM rKHAH rMEEM WITH JEEM tHAH tKHAH ",
    "pJEEM WITH MEEM WITH HAH FINAL uINITIAL pHAH WITH MEEM WITH YEH FINAL ",
    "gALEF MAKSURA FINAL FORMcSEEN WITH HAH WITH JEEM INITIAL FORMrJEEM WITH HAH ",
    "gALEF MAKSURA FINAL FORMeMEEM WITH HAH FINAL FORMuINITIAL tJEEM tMEEM FINAL uINITIAL ",
    "pSAD WITH HAH WITH HAH FINAL uINITIAL rMEEM WITH MEEM FINAL pSHEEN WITH HAH uINITIAL ",
    "rJEEM WITH YEH FINAL rMEEM WITH KHAH uINITIAL tMEEM FINAL uINITIAL ",
    "cDAD WITH HAH WITH ALEF MAKSURA FINAL FORMeKHAH WITH MEEM FINAL FORMuINITIAL ",
    "pTAH WITH MEEM WITH HAH FINAL uINITIAL tMEEM tYEH FINAL pAIN WITH JEEM WITH MEEM rMEEM ",
    "uINITIAL gALEF MAKSURA FINAL FORMcGHAIN WITH MEEM WITH MEEM FINAL FORMtYEH ",
    "gALEF MAKSURA FINAL FORMcFEH WITH KHAH WITH MEEM FINAL FORMuINITIAL ",
    "pQAF WITH MEEM WITH HAH FINAL tMEEM pLAM WITH HAH tYEH gALEF MAKSURA FINAL FORM",
    "eJEEM WITH JEEM INITIAL FORMuFINAL rKHAH WITH MEEM uINITIAL rMEEM WITH HAH FINAL uINITIAL ",
    "pMEEM WITH HAH WITH JEEM tMEEM tYEH FINAL rJEEM WITH HAH INITIAL tMEEM rKHAH WITH JEEM tMEEM ",
    "FD92rJEEM WITH KHAH pHEH WITH MEEM WITH JEEM tMEEM pNOON WITH HAH gALEF MAKSURA FINAL FORM",
    "eJEEM WITH MEEM FINAL FORMuINITIAL gALEF MAKSURA FINAL FORMeMEEM WITH YEH FINAL FORM",
    "gALEF MAKSURA FINAL FORMcYEH WITH MEEM WITH MEEM FINAL FORMuINITIAL ",
    "pBEH WITH KHAH WITH YEH FINAL pTEH WITH JEEM gALEF MAKSURA FINAL FORM",
    "eKHAH WITH YEH FINAL FORMgALEF MAKSURA FINAL FORMeMEEM WITH YEH FINAL FORM",
    "gALEF MAKSURA FINAL FORMcJEEM WITH MEEM WITH YEH FINAL FORMeHAH WITH ALEF MAKSURA FINAL FORM",
    "rMEEM pSEEN WITH KHAH cSAD WITH HAH WITH YEH FINAL FORMpSHEEN pDAD pLAM WITH JEEM rMEEM ",
    "pYEH WITH HAH rJEEM rMEEM pMEEM pQAF pNOON WITH HAH pQAF WITH MEEM WITH HAH INITIAL ",
    "pLAM WITH HAH WITH MEEM pAIN WITH MEEM WITH YEH FINAL pKAF pNOON WITH JEEM WITH HAH INITIAL ",
    "pMEEM WITH KHAH WITH YEH FINAL pLAM WITH JEEM WITH MEEM INITIAL ",
    "pKAF WITH MEEM WITH MEEM FINAL pLAM WITH JEEM pNOON WITH JEEM WITH HAH ",
    "pJEEM WITH HAH WITH YEH pHAH WITH JEEM pMEEM pFEH WITH MEEM pBEH WITH HAH ",
    "pKAF WITH MEEM WITH MEEM INITIAL pAIN WITH JEEM pSAD WITH MEEM ",
    "pSEEN WITH KHAH WITH YEH FINAL pNOON WITH JEEM ", "FDCFcSALAAMUHU ALAYNAA",
    "FDF0cSALLA USED AS KORANIC STOP SIGN ISOLATED FORMpQALA cALLAH ISOLATED FORMpAKBAR pMOHAMMAD ",
    "pSALAM pRASOUL pALAYHE pWASALLAM pSALLA cSALLALLAHOU ALAYHE WASALLAMcJALLAJALALOUHOU",
    "aRIAL SIGNaARABIC LIGATURE BISMILLAH AR-RAHMAN AR-RAHEEMcSUBHAANAHU WA TAAALAAcAZZA WA JALL",
    "aVARIATION SELECTOR-1c2c3c4c5c6c7c8c9c10c11c12c13c14c15c16",
    "aPRESENTATION FORM FOR VERTICAL COMMAeIDEOGRAPHIC COMMAfFULL STOPeCOLONeSEMICOLON",
    "eEXCLAMATION MARKrQUESTION eLEFT WHITE LENTICULAR BRACKETeRIGHT WHITE LENTICULAR BRAKCET",
    "eHORIZONTAL ELLIPSIS",
    "FE20aCOMBINING LIGATURE LEFT HALFpRIGHT bDOUBLE TILDE LEFT HALFqRIGHT bMACRON LEFT HALF",
    "pRIGHT bCONJOINING MACRONbLIGATURE LEFT HALF BELOWpRIGHT oTILDE LEFT pRIGHT oMACRON LEFT ",
    "pRIGHT bCONJOINING MACRON BELOWbCYRILLIC TITLO LEFT HALFqRIGHT ",
    "aPRESENTATION FORM FOR VERTICAL TWO DOT LEADEReEM DASHrEN eLOW LINEeWAVY LOW LINE",
    "eLEFT PARENTHESISrRIGHT eLEFT CURLY BRACKETrRIGHT eLEFT TORTOISE SHELL BRACKETrRIGHT ",
    "rLEFT BLACK LENTICULAR rRIGHT rLEFT DOUBLE ANGLE rRIGHT eLEFT ANGLE BRACKETrRIGHT ",
    "rLEFT CORNER rRIGHT eLEFT WHITE CORNER BRACKETrRIGHT aSESAME DOTaWHITE SESAME DOT",
    "aPRESENTATION FORM FOR VERTICAL LEFT SQUARE BRACKETrRIGHT aDASHED OVERLINEnCENTRELINE nWAVY ",
    "aDOUBLE WAVY OVERLINEaDASHED LOW LINEnCENTRELINE nWAVY aSMALL COMMAbIDEOGRAPHIC COMMA",
    "bFULL STOP", "FE54bSEMICOLONbCOLONbQUESTION MARKoEXCLAMATION bEM DASHbLEFT PARENTHESISoRIGHT ",
    "bLEFT CURLY BRACKEToRIGHT bLEFT TORTOISE SHELL BRACKEToRIGHT bNUMBER SIGNbAMPERSANDbASTERISK",
    "bPLUS SIGNbHYPHEN-MINUSbLESS-THAN SIGNoGREATER-bEQUALS SIGN",
    "FE68bREVERSE SOLIDUSbDOLLAR SIGNoPERCENT bCOMMERCIAL AT",
    "FE70aARABIC FATHATAN ISOLATED FORMbTATWEEL WITH FATHATAN ABOVEbDAMMATAN ISOLATED FORM",
    "bTAIL FRAGMENTbKASRATAN ISOLATED FORM",
    "FE76oFATHA pMEDIAL oDAMMA ISOLATED pMEDIAL oKASRA ISOLATED pMEDIAL oSHADDA ISOLATED pMEDIAL ",
    "oSUKUN ISOLATED pMEDIAL bLETTER HAMZA ISOLATED FORMcALEF WITH MADDA ABOVE ISOLATED FORM",
    "tFINAL rHAMZA ABOVE ISOLATED tFINAL pWAW WITH HAMZA ABOVE ISOLATED tFINAL ",
    "pALEF WITH HAMZA BELOW ISOLATED tFINAL pYEH WITH HAMZA ABOVE ISOLATED tFINAL tINITIAL ",
    "tMEDIAL cALEF ISOLATED FORMqFINAL pBEH ISOLATED qFINAL qINITIAL qMEDIAL ",
    "cTEH MARBUTA ISOLATED FORMrFINAL dISOLATED FORMqFINAL qINITIAL qMEDIAL pTHEH ISOLATED qFINAL ",
    "qINITIAL qMEDIAL pJEEM ISOLATED qFINAL qINITIAL qMEDIAL pHAH ISOLATED qFINAL qINITIAL ",
    "qMEDIAL pKHAH ISOLATED qFINAL qINITIAL qMEDIAL pDAL ISOLATED qFINAL pTHAL ISOLATED qFINAL ",
    "pREH ISOLATED qFINAL pZAIN ISOLATED qFINAL pSEEN ISOLATED qFINAL qINITIAL qMEDIAL ",
    "pSHEEN ISOLATED qFINAL qINITIAL qMEDIAL pSAD ISOLATED qFINAL qINITIAL qMEDIAL pDAD ISOLATED ",
    "qFINAL qINITIAL qMEDIAL pTAH ISOLATED qFINAL qINITIAL qMEDIAL pZAH ISOLATED qFINAL qINITIAL ",
    "qMEDIAL pAIN ISOLATED qFINAL qINITIAL qMEDIAL pGHAIN ISOLATED qFINAL qINITIAL qMEDIAL ",
    "pFEH ISOLATED qFINAL qINITIAL qMEDIAL pQAF ISOLATED qFINAL qINITIAL qMEDIAL pKAF ISOLATED ",
    "qFINAL qINITIAL qMEDIAL pLAM ISOLATED qFINAL qINITIAL qMEDIAL pMEEM ISOLATED qFINAL qINITIAL ",
    "qMEDIAL pNOON ISOLATED qFINAL qINITIAL qMEDIAL pHEH ISOLATED qFINAL qINITIAL qMEDIAL ",
    "pWAW ISOLATED qFINAL cALEF MAKSURA ISOLATED FORMrFINAL cYEH ISOLATED FORMqFINAL qINITIAL ",
    "qMEDIAL bLIGATURE LAM WITH ALEF WITH MADDA ABOVE ISOLATED FORMvFINAL tHAMZA ABOVE ISOLATED ",
    "vFINAL uBELOW ISOLATED vFINAL fISOLATED FORMsFINAL ", "FEFFaZERO WIDTH NO-BREAK SPACE",
    "FF01aFULLWIDTH EXCLAMATION MARKoQUOTATION bNUMBER SIGNoDOLLAR oPERCENT bAMPERSANDbAPOSTROPHE",
    "bLEFT PARENTHESISoRIGHT bASTERISKbPLUS SIGNbCOMMAbHYPHEN-MINUSbFULL STOPbSOLIDUSbDIGIT ZERO",
    "cONEcTWOcTHREEcFOURcFIVEcSIXcSEVENcEIGHTcNINEbCOLONbSEMICOLONbLESS-THAN SIGNbEQUALS SIGN",
    "bGREATER-THAN SIGNbQUESTION MARKbCOMMERCIAL ATbLATIN CAPITAL LETTER AeBeCeDeEeFeGeHeIeJeKeLeM",
    "eNeOePeQeReSeTeUeVeWeXeYeZbLEFT SQUARE BRACKETbREVERSE SOLIDUSbRIGHT SQUARE BRACKET",
    "bCIRCUMFLEX ACCENTbLOW LINEbGRAVE ACCENTbLATIN SMALL LETTER AeBeCeDeEeFeGeHeIeJeKeLeMeNeOePeQ",
    "eReSeTeUeVeWeXeYeZbLEFT CURLY BRACKETbVERTICAL LINEbRIGHT CURLY BRACKETbTILDE",
    "bLEFT WHITE PARENTHESISoRIGHT aHALFWIDTH IDEOGRAPHIC FULL STOPbLEFT CORNER BRACKEToRIGHT ",
    "bIDEOGRAPHIC COMMAbKATAKANA MIDDLE DOTcLETTER WOdSMALL AeIeUeEeOeYAeYUeYOeTU",
    "bKATAKANA-HIRAGANA PROLONGED SOUND MARKbKATAKANA LETTER AdIdUdEdOdKAdKIdKUdKEdKOdSAdSIdSUdSE",
    "dSOdTAdTIdTUdTEdTOdNAdNIdNUdNEdNOdHAdHIdHUdHEdHOdMAdMIdMUdMEdMOdYAdYUdYOdRAdRIdRUdREdROdWAdN",
    "cVOICED SOUND MARKcSEMI-VOICED SOUND MARKbHANGUL FILLERcLETTER KIYEOKdSSANGKIYEOKdKIYEOK-SIOS",
    "dNIEUNdNIEUN-CIEUCeHIEUHdTIKEUTdSSANGTIKEUTdRIEULdRIEUL-KIYEOKeMIEUMePIEUPeSIOSeTHIEUTH",
    "ePHIEUPHeHIEUHdMIEUMdPIEUPdSSANGPIEUPdPIEUP-SIOSdSIOSdSSANGSIOSdIEUNGdCIEUCdSSANGCIEUC",
    "dCHIEUCHdKHIEUKHdTHIEUTHdPHIEUPHdHIEUH", "FFC2dAdAEdYAdYAEdEOdE", "FFCAdYEOdYEdOdWAdWAEdOE",
    "FFD2dYOdUdWEOdWEdWIdYU", "FFDAdEUdYIdI",
    "FFE0aFULLWIDTH CENT SIGNoPOUND oNOT bMACRONbBROKEN BARbYEN SIGNoWON ",
    "FFE8aHALFWIDTH FORMS LIGHT VERTICALbLEFTWARDS ARROWoUPWARDS oRIGHTWARDS oDOWNWARDS ",
    "bBLACK SQUAREbWHITE CIRCLE",
    "FFF9aINTERLINEAR ANNOTATION ANCHORcSEPARATORcTERMINATORaOBJECT REPLACEMENT CHARACTER",
    "aREPLACEMENT CHARACTER"]

end EngineBindings.Text.CharName
