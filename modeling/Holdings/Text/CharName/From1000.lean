/-
# Names of the characters from U+1000 to U+1FFF

The rows of a table whose form `Text/CharName.lean` explains.
-/
namespace Holdings.Text.CharName

/-- The names of the characters from U+1000 to U+1FFF. -/
def namesFrom1000 : List String := [
  "1000aMYANMAR LETTER KA,cKHA,cGA,cGHA,cNGA,cCA,cCHA,cJA,cJHA,cNYA,cNNYA,cTTA,cTTHA,cDDA,cDDHA",
  "cNNA,cTA,cTHA,cDA,cDHA,cNA,cPA,cPHA,cBA,cBHA,cMA,cYA,cRA,cLA,cWA,cSA,cHA,cLLA,cA,cSHAN A,cI,cII",
  "cU,cUU,cE,cMON E,cO,cAU,bVOWEL SIGN TALL AA,dAA,dI,dII,dU,dUU,dE,dAI,dMON II,eO,dE ABOVE",
  "bSIGN ANUSVARA,cDOT BELOW,cVISARGA,cVIRAMA,cASAT,bCONSONANT SIGN MEDIAL YA,eRA,eWA,eHA",
  "bLETTER GREAT SA,bDIGIT ZERO,cONE,cTWO,cTHREE,cFOUR,cFIVE,cSIX,cSEVEN,cEIGHT,cNINE",
  "bSIGN LITTLE SECTION,cSECTION,bSYMBOL LOCATIVE,cCOMPLETED,cAFOREMENTIONED,cGENITIVE,bLETTER SHA",
  "cSSA,cVOCALIC R,dRR,dL,dLL,bVOWEL SIGN VOCALIC R,eRR,eL,eLL,bLETTER MON NGA,dJHA,dBBA,dBBE",
  "bCONSONANT SIGN MON MEDIAL NA,fMA,fLA,bLETTER SGAW KAREN SHA,bVOWEL SIGN SGAW KAREN EU",
  "bTONE MARK SGAW KAREN HATHI,fKE PHO,bLETTER WESTERN PWO KAREN THA,fPWA",
  "bVOWEL SIGN WESTERN PWO KAREN EU,gUE,bSIGN WESTERN PWO KAREN TONE-1,fTONE-2,fTONE-3,fTONE-4",
  "fTONE-5,bLETTER EASTERN PWO KAREN NNA,fYWA,fGHWA,bVOWEL SIGN GEBA KAREN I,dKAYAH OE,eU,eEE",
  "bLETTER SHAN KA,dKHA,dGA,dCA,dZA,dNYA,dDA,dNA,dPHA,dFA,dBA,dTHA,dHA",
  "bCONSONANT SIGN SHAN MEDIAL WA,bVOWEL SIGN SHAN AA,eE,fABOVE,eFINAL Y,bSIGN SHAN TONE-2,dTONE-3",
  "dTONE-5,dTONE-6,dCOUNCIL TONE-2,eTONE-3,eEMPHATIC TONE,bLETTER RUMAI PALAUNG FA",
  "bSIGN RUMAI PALAUNG TONE-5,bSHAN DIGIT ZERO,dONE,dTWO,dTHREE,dFOUR,dFIVE,dSIX,dSEVEN,dEIGHT",
  "dNINE,bSIGN KHAMTI TONE-1,dTONE-3,bVOWEL SIGN AITON A,eAI,bSYMBOL SHAN ONE,dEXCLAMATION",
  "aGEORGIAN CAPITAL LETTER AN,dBAN,dGAN,dDON,dEN,dVIN,dZEN,dTAN,dIN,dKAN,dLAS,dMAN,dNAR,dON,dPAR",
  "dZHAR,dRAE,dSAN,dTAR,dUN,dPHAR,dKHAR,dGHAN,dQAR,dSHIN,dCHIN,dCAN,dJIL,dCIL,dCHAR,dXAN,dJHAN",
  "dHAE,dHE,dHIE,dWE,dHAR,dHOE,10C7dYN,10CDdAEN,10D0bLETTER AN,cBAN,cGAN,cDON,cEN,cVIN,cZEN,cTAN",
  "cIN,cKAN,cLAS,cMAN,cNAR,cON,cPAR,cZHAR,cRAE,cSAN,cTAR,cUN,cPHAR,cKHAR,cGHAN,cQAR,cSHIN,cCHIN",
  "cCAN,cJIL,cCIL,cCHAR,cXAN,cJHAN,cHAE,cHE,cHIE,cWE,cHAR,cHOE,cFI,cYN,cELIFI,cTURNED GAN,cAIN",
  "bPARAGRAPH SEPARATOR,aMODIFIER LETTER GEORGIAN NAR,aGEORGIAN LETTER AEN,cHARD SIGN,cLABIAL SIGN",
  "aHANGUL CHOSEONG KIYEOK,cSSANGKIYEOK,cNIEUN,cTIKEUT,cSSANGTIKEUT,cRIEUL,cMIEUM,cPIEUP",
  "cSSANGPIEUP,cSIOS,cSSANGSIOS,cIEUNG,cCIEUC,cSSANGCIEUC,cCHIEUCH,cKHIEUKH,cTHIEUTH,cPHIEUPH",
  "cHIEUH,cNIEUN-KIYEOK,cSSANGNIEUN,cNIEUN-TIKEUT,cNIEUN-PIEUP,cTIKEUT-KIYEOK,cRIEUL-NIEUN",
  "cSSANGRIEUL,cRIEUL-HIEUH,cKAPYEOUNRIEUL,cMIEUM-PIEUP,cKAPYEOUNMIEUM,cPIEUP-KIYEOK,cPIEUP-NIEUN",
  "cPIEUP-TIKEUT,cPIEUP-SIOS,cPIEUP-SIOS-KIYEOK,cPIEUP-SIOS-TIKEUT,cPIEUP-SIOS-PIEUP",
  "cPIEUP-SSANGSIOS,cPIEUP-SIOS-CIEUC,cPIEUP-CIEUC,cPIEUP-CHIEUCH,cPIEUP-THIEUTH,cPIEUP-PHIEUPH",
  "cKAPYEOUNPIEUP,cKAPYEOUNSSANGPIEUP,cSIOS-KIYEOK,cSIOS-NIEUN,cSIOS-TIKEUT,cSIOS-RIEUL",
  "cSIOS-MIEUM,cSIOS-PIEUP,cSIOS-PIEUP-KIYEOK,cSIOS-SSANGSIOS,cSIOS-IEUNG,cSIOS-CIEUC",
  "cSIOS-CHIEUCH,cSIOS-KHIEUKH,cSIOS-THIEUTH,cSIOS-PHIEUPH,cSIOS-HIEUH,cCHITUEUMSIOS",
  "cCHITUEUMSSANGSIOS,cCEONGCHIEUMSIOS,cCEONGCHIEUMSSANGSIOS,cPANSIOS,cIEUNG-KIYEOK,cIEUNG-TIKEUT",
  "cIEUNG-MIEUM,cIEUNG-PIEUP,cIEUNG-SIOS,cIEUNG-PANSIOS,cSSANGIEUNG,cIEUNG-CIEUC,cIEUNG-CHIEUCH",
  "cIEUNG-THIEUTH,cIEUNG-PHIEUPH,cYESIEUNG,cCIEUC-IEUNG,cCHITUEUMCIEUC,cCHITUEUMSSANGCIEUC",
  "cCEONGCHIEUMCIEUC,cCEONGCHIEUMSSANGCIEUC,cCHIEUCH-KHIEUKH,cCHIEUCH-HIEUH,cCHITUEUMCHIEUCH",
  "cCEONGCHIEUMCHIEUCH,cPHIEUPH-PIEUP,cKAPYEOUNPHIEUPH,cSSANGHIEUH,cYEORINHIEUH,cKIYEOK-TIKEUT",
  "cNIEUN-SIOS,cNIEUN-CIEUC,cNIEUN-HIEUH,cTIKEUT-RIEUL,cFILLER,bJUNGSEONG FILLER,cA,cAE,cYA,cYAE",
  "cEO,cE,cYEO,cYE,cO,cWA,cWAE,cOE,cYO,cU,cWEO,cWE,cWI,cYU,cEU,cYI,cI,cA-O,cA-U,cYA-O,cYA-YO,cEO-O",
  "cEO-U,cEO-EU,cYEO-O,cYEO-U,cO-EO,cO-E,cO-YE,cO-O,cO-U,cYO-YA,cYO-YAE,cYO-YEO,cYO-O,cYO-I,cU-A",
  "cU-AE,cU-EO-EU,cU-YE,cU-U,cYU-A,cYU-EO,cYU-E,cYU-YEO,cYU-YE,cYU-U,cYU-I,cEU-U,cEU-EU,cYI-U,cI-A",
  "cI-YA,cI-O,cI-U,cI-EU,cI-ARAEA,cARAEA,cARAEA-EO,cARAEA-U,cARAEA-I,cSSANGARAEA,cA-EU,cYA-U",
  "cYEO-YA,cO-YA,cO-YAE,bJONGSEONG KIYEOK,cSSANGKIYEOK,cKIYEOK-SIOS,cNIEUN,cNIEUN-CIEUC",
  "cNIEUN-HIEUH,cTIKEUT,cRIEUL,cRIEUL-KIYEOK,cRIEUL-MIEUM,cRIEUL-PIEUP,cRIEUL-SIOS,cRIEUL-THIEUTH",
  "cRIEUL-PHIEUPH,cRIEUL-HIEUH,cMIEUM,cPIEUP,cPIEUP-SIOS,cSIOS,cSSANGSIOS,cIEUNG,cCIEUC,cCHIEUCH",
  "cKHIEUKH,cTHIEUTH,cPHIEUPH,cHIEUH,cKIYEOK-RIEUL,cKIYEOK-SIOS-KIYEOK,cNIEUN-KIYEOK,cNIEUN-TIKEUT",
  "cNIEUN-SIOS,cNIEUN-PANSIOS,cNIEUN-THIEUTH,cTIKEUT-KIYEOK,cTIKEUT-RIEUL,cRIEUL-KIYEOK-SIOS",
  "cRIEUL-NIEUN,cRIEUL-TIKEUT,cRIEUL-TIKEUT-HIEUH,cSSANGRIEUL,cRIEUL-MIEUM-KIYEOK",
  "cRIEUL-MIEUM-SIOS,cRIEUL-PIEUP-SIOS,cRIEUL-PIEUP-HIEUH,cRIEUL-KAPYEOUNPIEUP,cRIEUL-SSANGSIOS",
  "cRIEUL-PANSIOS,cRIEUL-KHIEUKH,cRIEUL-YEORINHIEUH,cMIEUM-KIYEOK,cMIEUM-RIEUL,cMIEUM-PIEUP",
  "cMIEUM-SIOS,cMIEUM-SSANGSIOS,cMIEUM-PANSIOS,cMIEUM-CHIEUCH,cMIEUM-HIEUH,cKAPYEOUNMIEUM",
  "cPIEUP-RIEUL,cPIEUP-PHIEUPH,cPIEUP-HIEUH,cKAPYEOUNPIEUP,cSIOS-KIYEOK,cSIOS-TIKEUT,cSIOS-RIEUL",
  "cSIOS-PIEUP,cPANSIOS,cIEUNG-KIYEOK,cIEUNG-SSANGKIYEOK,cSSANGIEUNG,cIEUNG-KHIEUKH,cYESIEUNG",
  "cYESIEUNG-SIOS,cYESIEUNG-PANSIOS,cPHIEUPH-PIEUP,cKAPYEOUNPHIEUPH,cHIEUH-NIEUN,cHIEUH-RIEUL",
  "cHIEUH-MIEUM,cHIEUH-PIEUP,cYEORINHIEUH,cKIYEOK-NIEUN,cKIYEOK-PIEUP,cKIYEOK-CHIEUCH",
  "cKIYEOK-KHIEUKH,cKIYEOK-HIEUH,cSSANGNIEUN,aETHIOPIC SYLLABLE HA,cHU,cHI,cHAA,cHEE,cHE,cHO,cHOA",
  "cLA,cLU,cLI,cLAA,cLEE,cLE,cLO,cLWA,cHHA,cHHU,cHHI,cHHAA,cHHEE,cHHE,cHHO,cHHWA,cMA,cMU,cMI,cMAA",
  "cMEE,cME,cMO,cMWA,cSZA,cSZU,cSZI,cSZAA,cSZEE,cSZE,cSZO,cSZWA,cRA,cRU,cRI,cRAA,cREE,cRE,cRO,cRWA",
  "cSA,cSU,cSI,cSAA,cSEE,cSE,cSO,cSWA,cSHA,cSHU,cSHI,cSHAA,cSHEE,cSHE,cSHO,cSHWA,cQA,cQU,cQI,cQAA",
  "cQEE,cQE,cQO,cQOA,cQWA,124AcQWI,cQWAA,cQWEE,cQWE,1250cQHA,cQHU,cQHI,cQHAA,cQHEE,cQHE,cQHO",
  "1258cQHWA,125AcQHWI,cQHWAA,cQHWEE,cQHWE,1260cBA,cBU,cBI,cBAA,cBEE,cBE,cBO,cBWA,cVA,cVU,cVI,cVAA",
  "cVEE,cVE,cVO,cVWA,cTA,cTU,cTI,cTAA,cTEE,cTE,cTO,cTWA,cCA,cCU,cCI,cCAA,cCEE,cCE,cCO,cCWA,cXA,cXU",
  "cXI,cXAA,cXEE,cXE,cXO,cXOA,cXWA,128AcXWI,cXWAA,cXWEE,cXWE,1290cNA,cNU,cNI,cNAA,cNEE,cNE,cNO",
  "cNWA,cNYA,cNYU,cNYI,cNYAA,cNYEE,cNYE,cNYO,cNYWA,cGLOTTAL A,dU,dI,dAA,dEE,dE,dO,dWA,cKA,cKU,cKI",
  "cKAA,cKEE,cKE,cKO,cKOA,cKWA,12B2cKWI,cKWAA,cKWEE,cKWE,12B8cKXA,cKXU,cKXI,cKXAA,cKXEE,cKXE,cKXO",
  "12C0cKXWA,12C2cKXWI,cKXWAA,cKXWEE,cKXWE,12C8cWA,cWU,cWI,cWAA,cWEE,cWE,cWO,cWOA,cPHARYNGEAL A,dU",
  "dI,dAA,dEE,dE,dO,12D8cZA,cZU,cZI,cZAA,cZEE,cZE,cZO,cZWA,cZHA,cZHU,cZHI,cZHAA,cZHEE,cZHE,cZHO",
  "cZHWA,cYA,cYU,cYI,cYAA,cYEE,cYE,cYO,cYOA,cDA,cDU,cDI,cDAA,cDEE,cDE,cDO,cDWA,cDDA,cDDU,cDDI",
  "cDDAA,cDDEE,cDDE,cDDO,cDDWA,cJA,cJU,cJI,cJAA,cJEE,cJE,cJO,cJWA,cGA,cGU,cGI,cGAA,cGEE,cGE,cGO",
  "cGOA,cGWA,1312cGWI,cGWAA,cGWEE,cGWE,1318cGGA,cGGU,cGGI,cGGAA,cGGEE,cGGE,cGGO,cGGWAA,cTHA,cTHU",
  "cTHI,cTHAA,cTHEE,cTHE,cTHO,cTHWA,cCHA,cCHU,cCHI,cCHAA,cCHEE,cCHE,cCHO,cCHWA,cPHA,cPHU,cPHI",
  "cPHAA,cPHEE,cPHE,cPHO,cPHWA,cTSA,cTSU,cTSI,cTSAA,cTSEE,cTSE,cTSO,cTSWA,cTZA,cTZU,cTZI,cTZAA",
  "cTZEE,cTZE,cTZO,cTZOA,cFA,cFU,cFI,cFAA,cFEE,cFE,cFO,cFWA,cPA,cPU,cPI,cPAA,cPEE,cPE,cPO,cPWA",
  "cRYA,cMYA,cFYA,135DbCOMBINING GEMINATION AND VOWEL LENGTH MARK,cVOWEL LENGTH MARK",
  "cGEMINATION MARK,bSECTION MARK,bWORDSPACE,bFULL STOP,bCOMMA,bSEMICOLON,bCOLON,bPREFACE COLON",
  "bQUESTION MARK,bPARAGRAPH SEPARATOR,bDIGIT ONE,cTWO,cTHREE,cFOUR,cFIVE,cSIX,cSEVEN,cEIGHT,cNINE",
  "bNUMBER TEN,cTWENTY,cTHIRTY,cFORTY,cFIFTY,cSIXTY,cSEVENTY,cEIGHTY,cNINETY,cHUNDRED",
  "cTEN THOUSAND,1380bSYLLABLE SEBATBEIT MWA,cMWI,cMWEE,cMWE,cSEBATBEIT BWA,cBWI,cBWEE,cBWE",
  "cSEBATBEIT FWA,cFWI,cFWEE,cFWE,cSEBATBEIT PWA,cPWI,cPWEE,cPWE,bTONAL MARK YIZET,dDERET,dRIKRIK",
  "dSHORT RIKRIK,dDIFAT,dKENAT,dCHIRET,dHIDET,dDERET-HIDET,dKURT,13A0aCHEROKEE LETTER A,cE,cI,cO",
  "cU,cV,cGA,cKA,cGE,cGI,cGO,cGU,cGV,cHA,cHE,cHI,cHO,cHU,cHV,cLA,cLE,cLI,cLO,cLU,cLV,cMA,cME,cMI",
  "cMO,cMU,cNA,cHNA,cNAH,cNE,cNI,cNO,cNU,cNV,cQUA,cQUE,cQUI,cQUO,cQUU,cQUV,cSA,cS,cSE,cSI,cSO,cSU",
  "cSV,cDA,cTA,cDE,cTE,cDI,cTI,cDO,cDU,cDV,cDLA,cTLA,cTLE,cTLI,cTLO,cTLU,cTLV,cTSA,cTSE,cTSI,cTSO",
  "cTSU,cTSV,cWA,cWE,cWI,cWO,cWU,cWV,cYA,cYE,cYI,cYO,cYU,cYV,cMV,13F8bSMALL LETTER YE,dYI,dYO,dYU",
  "dYV,dMV,1400aCANADIAN SYLLABICS HYPHEN,cE,cAAI,cI,cII,cO,cOO,cY-CREE OO,cCARRIER EE,dI,cA,cAA",
  "cWE,cWEST-CREE WE,cWI,cWEST-CREE WI,cWII,cWEST-CREE WII,cWO,cWEST-CREE WO,cWOO,cWEST-CREE WOO",
  "cNASKAPI WOO,cWA,cWEST-CREE WA,cWAA,cWEST-CREE WAA,cNASKAPI WAA,cAI,cY-CREE W,cGLOTTAL STOP",
  "cFINAL ACUTE,dGRAVE,dBOTTOM HALF RING,dTOP HALF RING,dRIGHT HALF RING,dRING,dDOUBLE ACUTE",
  "eSHORT VERTICAL STROKES,dMIDDLE DOT,dSHORT HORIZONTAL STROKE,dPLUS,dDOWN TACK,cEN,cIN,cON,cAN",
  "cPE,cPAAI,cPI,cPII,cPO,cPOO,cY-CREE POO,cCARRIER HEE,dHI,cPA,cPAA,cPWE,cWEST-CREE PWE,cPWI",
  "cWEST-CREE PWI,cPWII,cWEST-CREE PWII,cPWO,cWEST-CREE PWO,cPWOO,cWEST-CREE PWOO,cPWA",
  "cWEST-CREE PWA,cPWAA,cWEST-CREE PWAA,cY-CREE PWAA,cP,cWEST-CREE P,cCARRIER H,cTE,cTAAI,cTI,cTII",
  "cTO,cTOO,cY-CREE TOO,cCARRIER DEE,dDI,cTA,cTAA,cTWE,cWEST-CREE TWE,cTWI,cWEST-CREE TWI,cTWII",
  "cWEST-CREE TWII,cTWO,cWEST-CREE TWO,cTWOO,cWEST-CREE TWOO,cTWA,cWEST-CREE TWA,cTWAA",
  "cWEST-CREE TWAA,cNASKAPI TWAA,cT,cTTE,cTTI,cTTO,cTTA,cKE,cKAAI,cKI,cKII,cKO,cKOO,cY-CREE KOO",
  "cKA,cKAA,cKWE,cWEST-CREE KWE,cKWI,cWEST-CREE KWI,cKWII,cWEST-CREE KWII,cKWO,cWEST-CREE KWO",
  "cKWOO,cWEST-CREE KWOO,cKWA,cWEST-CREE KWA,cKWAA,cWEST-CREE KWAA,cNASKAPI KWAA,cK,cKW",
  "cSOUTH-SLAVEY KEH,dKIH,dKOH,dKAH,cCE,cCAAI,cCI,cCII,cCO,cCOO,cY-CREE COO,cCA,cCAA,cCWE",
  "cWEST-CREE CWE,cCWI,cWEST-CREE CWI,cCWII,cWEST-CREE CWII,cCWO,cWEST-CREE CWO,cCWOO",
  "cWEST-CREE CWOO,cCWA,cWEST-CREE CWA,cCWAA,cWEST-CREE CWAA,cNASKAPI CWAA,cC,cSAYISI TH,cME,cMAAI",
  "cMI,cMII,cMO,cMOO,cY-CREE MOO,cMA,cMAA,cMWE,cWEST-CREE MWE,cMWI,cWEST-CREE MWI,cMWII",
  "cWEST-CREE MWII,cMWO,cWEST-CREE MWO,cMWOO,cWEST-CREE MWOO,cMWA,cWEST-CREE MWA,cMWAA",
  "cWEST-CREE MWAA,cNASKAPI MWAA,cM,cWEST-CREE M,cMH,cATHAPASCAN M,cSAYISI M,cNE,cNAAI,cNI,cNII",
  "cNO,cNOO,cY-CREE NOO,cNA,cNAA,cNWE,cWEST-CREE NWE,cNWA,cWEST-CREE NWA,cNWAA,cWEST-CREE NWAA",
  "cNASKAPI NWAA,cN,cCARRIER NG,cNH,cLE,cLAAI,cLI,cLII,cLO,cLOO,cY-CREE LOO,cLA,cLAA,cLWE",
  "cWEST-CREE LWE,cLWI,cWEST-CREE LWI,cLWII,cWEST-CREE LWII,cLWO,cWEST-CREE LWO,cLWOO",
  "cWEST-CREE LWOO,cLWA,cWEST-CREE LWA,cLWAA,cWEST-CREE LWAA,cL,cWEST-CREE L,cMEDIAL L,cSE,cSAAI",
  "cSI,cSII,cSO,cSOO,cY-CREE SOO,cSA,cSAA,cSWE,cWEST-CREE SWE,cSWI,cWEST-CREE SWI,cSWII",
  "cWEST-CREE SWII,cSWO,cWEST-CREE SWO,cSWOO,cWEST-CREE SWOO,cSWA,cWEST-CREE SWA,cSWAA",
  "cWEST-CREE SWAA,cNASKAPI SWAA,cS,cATHAPASCAN S,cSW,cBLACKFOOT S,cMOOSE-CREE SK,cNASKAPI SKW",
  "dS-W,dSPWA,dSTWA,dSKWA,dSCWA,cSHE,cSHI,cSHII,cSHO,cSHOO,cSHA,cSHAA,cSHWE,cWEST-CREE SHWE,cSHWI",
  "cWEST-CREE SHWI,cSHWII,cWEST-CREE SHWII,cSHWO,cWEST-CREE SHWO,cSHWOO,cWEST-CREE SHWOO,cSHWA",
  "cWEST-CREE SHWA,cSHWAA,cWEST-CREE SHWAA,cSH,cYE,cYAAI,cYI,cYII,cYO,cYOO,cY-CREE YOO,cYA,cYAA",
  "cYWE,cWEST-CREE YWE,cYWI,cWEST-CREE YWI,cYWII,cWEST-CREE YWII,cYWO,cWEST-CREE YWO,cYWOO",
  "cWEST-CREE YWOO,cYWA,cWEST-CREE YWA,cYWAA,cWEST-CREE YWAA,cNASKAPI YWAA,cY,cBIBLE-CREE Y",
  "cWEST-CREE Y,cSAYISI YI,cRE,cR-CREE RE,cWEST-CREE LE,cRAAI,cRI,cRII,cRO,cROO,cWEST-CREE LO,cRA",
  "cRAA,cWEST-CREE LA,cRWAA,cWEST-CREE RWAA,cR,cWEST-CREE R,cMEDIAL R,cFE,cFAAI,cFI,cFII,cFO,cFOO",
  "cFA,cFAA,cFWAA,cWEST-CREE FWAA,cF,cTHE,cN-CREE THE,cTHI,cN-CREE THI,cTHII,cN-CREE THII,cTHO",
  "cTHOO,cTHA,cTHAA,cTHWAA,cWEST-CREE THWAA,cTH,cTTHE,cTTHI,cTTHO,cTTHA,cTTH,cTYE,cTYI,cTYO,cTYA",
  "cNUNAVIK HE,dHI,dHII,dHO,dHOO,dHA,dHAA,dH,cNUNAVUT H,cHK,cQAAI,cQI,cQII,cQO,cQOO,cQA,cQAA,cQ",
  "cTLHE,cTLHI,cTLHO,cTLHA,cWEST-CREE RE,dRI,dRO,dRA,cNGAAI,cNGI,cNGII,cNGO,cNGOO,cNGA,cNGAA,cNG",
  "cNNG,cSAYISI SHE,dSHI,dSHO,dSHA,cWOODS-CREE THE,dTHI,dTHO,dTHA,dTH,cLHI,cLHII,cLHO,cLHOO,cLHA",
  "cLHAA,cLH,cTH-CREE THE,dTHI,dTHII,dTHO,dTHOO,dTHA,dTHAA,dTH,cAIVILIK B,cBLACKFOOT E,dI,dO,dA",
  "dWE,dWI,dWO,dWA,dNE,dNI,dNO,dNA,dKE,dKI,dKO,dKA,cSAYISI HE,dHI,dHO,dHA,cCARRIER GHU,dGHO,dGHE",
  "dGHEE,dGHI,dGHA,dRU,dRO,dRE,dREE,dRI,dRA,dWU,dWO,dWE,dWEE,dWI,dWA,dHWU,dHWO,dHWE,dHWEE,dHWI",
  "dHWA,dTHU,dTHO,dTHE,dTHEE,dTHI,dTHA,dTTU,dTTO,dTTE,dTTEE,dTTI,dTTA,dPU,dPO,dPE,dPEE,dPI,dPA,dP",
  "dGU,dGO,dGE,dGEE,dGI,dGA,dKHU,dKHO,dKHE,dKHEE,dKHI,dKHA,dKKU,dKKO,dKKE,dKKEE,dKKI,dKKA,dKK,dNU",
  "dNO,dNE,dNEE,dNI,dNA,dMU,dMO,dME,dMEE,dMI,dMA,dYU,dYO,dYE,dYEE,dYI,dYA,dJU,cSAYISI JU",
  "cCARRIER JO,dJE,dJEE,dJI,cSAYISI JI,cCARRIER JA,dJJU,dJJO,dJJE,dJJEE,dJJI,dJJA,dLU,dLO,dLE,dLEE",
  "dLI,dLA,dDLU,dDLO,dDLE,dDLEE,dDLI,dDLA,dLHU,dLHO,dLHE,dLHEE,dLHI,dLHA,dTLHU,dTLHO,dTLHE,dTLHEE",
  "dTLHI,dTLHA,dTLU,dTLO,dTLE,dTLEE,dTLI,dTLA,dZU,dZO,dZE,dZEE,dZI,dZA,dZ,dINITIAL Z,dDZU,dDZO",
  "dDZE,dDZEE,dDZI,dDZA,dSU,dSO,dSE,dSEE,dSI,dSA,dSHU,dSHO,dSHE,dSHEE,dSHI,dSHA,dSH,dTSU,dTSO,dTSE",
  "dTSEE,dTSI,dTSA,dCHU,dCHO,dCHE,dCHEE,dCHI,dCHA,dTTSU,dTTSO,dTTSE,dTTSEE,dTTSI,dTTSA,cCHI SIGN",
  "cFULL STOP,cQAI,cNGAI,cNNGI,cNNGII,cNNGO,cNNGOO,cNNGA,cNNGAA,cWOODS-CREE THWEE,dTHWI,dTHWII",
  "dTHWO,dTHWOO,dTHWA,dTHWAA,dFINAL TH,cBLACKFOOT W,aOGHAM SPACE MARK,bLETTER BEITH,cLUIS,cFEARN",
  "cSAIL,cNION,cUATH,cDAIR,cTINNE,cCOLL,cCEIRT,cMUIN,cGORT,cNGEADAL,cSTRAIF,cRUIS,cAILM,cONN,cUR",
  "cEADHADH,cIODHADH,cEABHADH,cOR,cUILLEANN,cIFIN,cEAMHANCHOLL,cPEITH,bFEATHER MARK",
  "bREVERSED FEATHER MARK,16A0aRUNIC LETTER FEHU FEOH FE F,cV,cURUZ UR U,cYR,cY,cW",
  "cTHURISAZ THURS THORN,cETH,cANSUZ A,cOS O,cAC A,cAESC,cLONG-BRANCH-OSS O,cSHORT-TWIG-OSS O,cO",
  "cOE,cON,cRAIDO RAD REID R,cKAUNA,cCEN,cKAUN K,cG,cENG,cGEBO GYFU G,cGAR,cWUNJO WYNN W,cHAGLAZ H",
  "cHAEGL H,cLONG-BRANCH-HAGALL H,cSHORT-TWIG-HAGALL H,cNAUDIZ NYD NAUD N,cSHORT-TWIG-NAUD N",
  "cDOTTED-N,cISAZ IS ISS I,cE,cJERAN J,cGER,cLONG-BRANCH-AR AE,cSHORT-TWIG-AR A,cIWAZ EOH",
  "cPERTHO PEORTH P,cALGIZ EOLHX,cSOWILO S,cSIGEL LONG-BRANCH-SOL S,cSHORT-TWIG-SOL S,cC,cZ",
  "cTIWAZ TIR TYR T,cSHORT-TWIG-TYR T,cD,cBERKANAN BEORC BJARKAN B,cSHORT-TWIG-BJARKAN B,cDOTTED-P",
  "cOPEN-P,cEHWAZ EH E,cMANNAZ MAN M,cLONG-BRANCH-MADR M,cSHORT-TWIG-MADR M,cLAUKAZ LAGU LOGR L",
  "cDOTTED-L,cINGWAZ,cING,cDAGAZ DAEG D,cOTHALAN ETHEL O,cEAR,cIOR,cCWEORTH,cCALC,cCEALC,cSTAN",
  "cLONG-BRANCH-YR,cSHORT-TWIG-YR,cICELANDIC-YR,cQ,cX,bSINGLE PUNCTUATION,bMULTIPLE PUNCTUATION",
  "bCROSS PUNCTUATION,bARLAUG SYMBOL,bTVIMADUR SYMBOL,bBELGTHOR SYMBOL,bLETTER K,cSH,cOO",
  "cFRANKS CASKET OS,eIS,eEH,eAC,eAESC,1700aTAGALOG LETTER A,cI,cU,cKA,cGA,cNGA,cTA,cDA,cNA,cPA",
  "cBA,cMA,cYA,cRA,cLA,cWA,cSA,cHA,bVOWEL SIGN I,dU,bSIGN VIRAMA,cPAMUDPOD,171FbLETTER ARCHAIC RA",
  "aHANUNOO LETTER A,cI,cU,cKA,cGA,cNGA,cTA,cDA,cNA,cPA,cBA,cMA,cYA,cRA,cLA,cWA,cSA,cHA",
  "bVOWEL SIGN I,dU,bSIGN PAMUDPOD,aPHILIPPINE SINGLE PUNCTUATION,bDOUBLE PUNCTUATION",
  "1740aBUHID LETTER A,cI,cU,cKA,cGA,cNGA,cTA,cDA,cNA,cPA,cBA,cMA,cYA,cRA,cLA,cWA,cSA,cHA",
  "bVOWEL SIGN I,dU,1760aTAGBANWA LETTER A,cI,cU,cKA,cGA,cNGA,cTA,cDA,cNA,cPA,cBA,cMA,cYA,176EcLA",
  "cWA,cSA,1772bVOWEL SIGN I,dU,1780aKHMER LETTER KA,cKHA,cKO,cKHO,cNGO,cCA,cCHA,cCO,cCHO,cNYO,cDA",
  "cTTHA,cDO,cTTHO,cNNO,cTA,cTHA,cTO,cTHO,cNO,cBA,cPHA,cPO,cPHO,cMO,cYO,cRO,cLO,cVO,cSHA,cSSO,cSA",
  "cHA,cLA,cQA,bINDEPENDENT VOWEL QAQ,dQAA,dQI,dQII,dQU,dQUK,dQUU,dQUUV,dRY,dRYY,dLY,dLYY,dQE,dQAI",
  "dQOO TYPE ONE,fTWO,dQAU,bVOWEL INHERENT AQ,dAA,cSIGN AA,dI,dII,dY,dYY,dU,dUU,dUA,dOE,dYA,dIE,dE",
  "dAE,dAI,dOO,dAU,bSIGN NIKAHIT,cREAHMUK,cYUUKALEAPINTU,cMUUSIKATOAN,cTRIISAP,cBANTOC,cROBAT",
  "cTOANDAKHIAT,cKAKABAT,cAHSDA,cSAMYOK SANNYA,cVIRIAM,cCOENG,cBATHAMASAT,cKHAN,cBARIYOOSAN",
  "cCAMNUC PII KUUH,cLEK TOO,cBEYYAL,cPHNAEK MUAN,cKOOMUUT,bCURRENCY SYMBOL RIEL",
  "bSIGN AVAKRAHASANYA,cATTHACAN,17E0bDIGIT ZERO,cONE,cTWO,cTHREE,cFOUR,cFIVE,cSIX,cSEVEN,cEIGHT",
  "cNINE,17F0bSYMBOL LEK ATTAK SON,eMUOY,ePII,eBEI,eBUON,ePRAM,ePRAM-MUOY,ePRAM-PII,ePRAM-BEI",
  "ePRAM-BUON,1800aMONGOLIAN BIRGA,bELLIPSIS,bCOMMA,bFULL STOP,bCOLON,bFOUR DOTS,bTODO SOFT HYPHEN",
  "bSIBE SYLLABLE BOUNDARY MARKER,bMANCHU COMMA,cFULL STOP,bNIRUGU,bFREE VARIATION SELECTOR ONE",
  "eTWO,eTHREE,bVOWEL SEPARATOR,bFREE VARIATION SELECTOR FOUR,bDIGIT ZERO,cONE,cTWO,cTHREE,cFOUR",
  "cFIVE,cSIX,cSEVEN,cEIGHT,cNINE,1820bLETTER A,cE,cI,cO,cU,cOE,cUE,cEE,cNA,cANG,cBA,cPA,cQA,cGA",
  "cMA,cLA,cSA,cSHA,cTA,cDA,cCHA,cJA,cYA,cRA,cWA,cFA,cKA,cKHA,cTSA,cZA,cHAA,cZRA,cLHA,cZHI,cCHI",
  "cTODO LONG VOWEL SIGN,dE,dI,dO,dU,dOE,dUE,dANG,dBA,dPA,dQA,dGA,dMA,dTA,dDA,dCHA,dJA,dTSA,dYA",
  "dWA,dKA,dGAA,dHAA,dJIA,dNIA,dDZA,cSIBE E,dI,dIY,dUE,dU,dANG,dKA,dGA,dHA,dPA,dSHA,dTA,dDA,dJA",
  "dFA,dGAA,dHAA,dTSA,dZA,dRAA,dCHA,dZHA,cMANCHU I,dKA,dRA,dFA,dZHA,cCHA WITH TWO DOTS",
  "1880cALI GALI ANUSVARA ONE,eVISARGA ONE,eDAMARU,eUBADAMA,eINVERTED UBADAMA,eBALUDA",
  "eTHREE BALUDA,eA,eI,eKA,eNGA,eCA,eTTA,eTTHA,eDDA,eNNA,eTA,eDA,ePA,ePHA,eSSA,eZHA,eZA,eAH",
  "cTODO ALI GALI TA,fZHA,cMANCHU ALI GALI GHA,fNGA,fCA,fJHA,fTTA,fDDHA,fTA,fDHA,fSSA,fCYA,fZHA",
  "fZA,cALI GALI HALF U,fYA,cMANCHU ALI GALI BHA,cALI GALI DAGALGA,cMANCHU ALI GALI LHA",
  "18B0aCANADIAN SYLLABICS OY,cAY,cAAY,cWAY,cPOY,cPAY,cPWOY,cTAY,cKAY,cKWAY,cMAY,cNOY,cNAY,cLAY",
  "cSOY,cSAY,cSHOY,cSHAY,cSHWOY,cYOY,cYAY,cRAY,cNWI,cOJIBWAY NWI,cNWII,cOJIBWAY NWII,cNWO",
  "cOJIBWAY NWO,cNWOO,cOJIBWAY NWOO,cRWEE,cRWI,cRWII,cRWO,cRWOO,cRWA,cOJIBWAY P,dT,dK,dC,dM,dN,dS",
  "dSH,cEASTERN W,cWESTERN W,cFINAL SMALL RING,dRAISED DOT,cR-CREE RWE,cWEST-CREE LOO,dLAA,cTHWE",
  "cTHWA,cTTHWE,cTTHOO,cTTHAA,cTLHWE,cTLHOO,cSAYISI SHWE,dSHOO,dHOO,cCARRIER GWU,dDENE GEE,dGAA",
  "dGWA,cSAYISI JUU,cCARRIER JWA,cBEAVER DENE L,eR,cCARRIER DENTAL S",
  "1900aLIMBU VOWEL-CARRIER LETTER,bLETTER KA,cKHA,cGA,cGHA,cNGA,cCA,cCHA,cJA,cJHA,cYAN,cTA,cTHA",
  "cDA,cDHA,cNA,cPA,cPHA,cBA,cBHA,cMA,cYA,cRA,cLA,cWA,cSHA,cSSA,cSA,cHA,cGYAN,cTRA",
  "1920bVOWEL SIGN A,dI,dU,dEE,dAI,dOO,dAU,dE,dO,bSUBJOINED LETTER YA,dRA,dWA,1930bSMALL LETTER KA",
  "dNGA,dANUSVARA,dTA,dNA,dPA,dMA,dRA,dLA,bSIGN MUKPHRENG,cKEMPHRENG,cSA-I,1940cLOO",
  "1944bEXCLAMATION MARK,bQUESTION MARK,bDIGIT ZERO,cONE,cTWO,cTHREE,cFOUR,cFIVE,cSIX,cSEVEN",
  "cEIGHT,cNINE,aTAI LE LETTER KA,dXA,dNGA,dTSA,dSA,dYA,dTA,dTHA,dLA,dPA,dPHA,dMA,dFA,dVA,dHA,dQA",
  "dKHA,dTSHA,dNA,dA,dI,dEE,dEH,dU,dOO,dO,dUE,dE,dAUE,dAI,1970dTONE-2,dTONE-3,dTONE-4,dTONE-5",
  "dTONE-6,1980aNEW TAI LUE LETTER HIGH QA,eLOW QA,eHIGH KA,fXA,fNGA,eLOW KA,fXA,fNGA,eHIGH TSA",
  "fSA,fYA,eLOW TSA,fSA,fYA,eHIGH TA,fTHA,fNA,eLOW TA,fTHA,fNA,eHIGH PA,fPHA,fMA,eLOW PA,fPHA,fMA",
  "eHIGH FA,fVA,fLA,eLOW FA,fVA,fLA,eHIGH HA,fDA,fBA,eLOW HA,fDA,fBA,eHIGH KVA,fXVA,eLOW KVA,fXVA",
  "eHIGH SUA,eLOW SUA,19B0dVOWEL SIGN VOWEL SHORTENER,fAA,fII,fU,fUU,fE,fAE,fO,fOA,fUE,fAY,fAAY",
  "fUY,fOY,fOAY,fUEY,fIY,dLETTER FINAL V,fNG,fN,fM,fK,fD,fB,dTONE MARK-1,eMARK-2,19D0dDIGIT ZERO",
  "eONE,eTWO,eTHREE,eFOUR,eFIVE,eSIX,eSEVEN,eEIGHT,eNINE,dTHAM DIGIT ONE,19DEdSIGN LAE,eLAEV",
  "aKHMER SYMBOL PATHAMASAT,cMUOY KOET,cPII KOET,cBEI KOET,cBUON KOET,cPRAM KOET,cPRAM-MUOY KOET",
  "cPRAM-PII KOET,cPRAM-BEI KOET,cPRAM-BUON KOET,cDAP KOET,cDAP-MUOY KOET,cDAP-PII KOET",
  "cDAP-BEI KOET,cDAP-BUON KOET,cDAP-PRAM KOET,cTUTEYASAT,cMUOY ROC,cPII ROC,cBEI ROC,cBUON ROC",
  "cPRAM ROC,cPRAM-MUOY ROC,cPRAM-PII ROC,cPRAM-BEI ROC,cPRAM-BUON ROC,cDAP ROC,cDAP-MUOY ROC",
  "cDAP-PII ROC,cDAP-BEI ROC,cDAP-BUON ROC,cDAP-PRAM ROC,aBUGINESE LETTER KA,cGA,cNGA,cNGKA,cPA",
  "cBA,cMA,cMPA,cTA,cDA,cNA,cNRA,cCA,cJA,cNYA,cNYCA,cYA,cRA,cLA,cVA,cSA,cA,cHA,bVOWEL SIGN I,dU,dE",
  "dO,dAE,1A1EbPALLAWA,bEND OF SECTION,aTAI THAM LETTER HIGH KA,eKHA,eKXA,dLOW KA,eKXA,eKHA,dNGA",
  "dHIGH CA,eCHA,dLOW CA,eSA,eCHA,dNYA,dRATA,dHIGH RATHA,dDA,dLOW RATHA,dRANA,dHIGH TA,eTHA",
  "dLOW TA,eTHA,dNA,dBA,dHIGH PA,ePHA,eFA,dLOW PA,eFA,ePHA,dMA,dLOW YA,dHIGH YA,dRA,dRUE,dLA,dLUE",
  "dWA,dHIGH SHA,eSSA,eSA,eHA,dLLA,dA,dLOW HA,dI,dII,dU,dUU,dEE,dOO,dLAE,dGREAT SA",
  "cCONSONANT SIGN MEDIAL RA,fLA,eLA TANG LAI,cSIGN MAI KANG LAI,cCONSONANT SIGN FINAL NGA,eLOW PA",
  "eHIGH RATHA OR LOW PA,eMA,eBA,eSA,1A60cSIGN SAKOT,cVOWEL SIGN A,eMAI SAT,eAA,eTALL AA,eI,eII",
  "eUE,eUUE,eU,eUU,eO,eOA BELOW,eOY,eE,eAE,eOO,eAI,eTHAM AI,eOA ABOVE,cSIGN MAI KANG,dTONE-1",
  "dTONE-2,dKHUEN TONE-3,eTONE-4,eTONE-5,dRA HAAM,dMAI SAM,dKHUEN-LUE KARAN",
  "1A7FcCOMBINING CRYPTOGRAMMIC DOT,cHORA DIGIT ZERO,eONE,eTWO,eTHREE,eFOUR,eFIVE,eSIX,eSEVEN",
  "eEIGHT,eNINE,1A90cTHAM DIGIT ZERO,eONE,eTWO,eTHREE,eFOUR,eFIVE,eSIX,eSEVEN,eEIGHT,eNINE",
  "1AA0cSIGN WIANG,dWIANGWAAK,dSAWAN,dKEOW,dHOY,dDOKMAI,dREVERSED ROTATED RANA,dMAI YAMOK,dKAAN",
  "dKAANKUU,dSATKAAN,dSATKAANKUU,dHANG,dCAANG,1AB0aCOMBINING DOUBLED CIRCUMFLEX ACCENT",
  "bDIAERESIS-RING,bINFINITY,bDOWNWARDS ARROW,bTRIPLE DOT,bX-X BELOW,bWIGGLY LINE BELOW",
  "bOPEN MARK BELOW,bDOUBLE OPEN MARK BELOW,bLIGHT CENTRALIZATION STROKE BELOW",
  "bSTRONG CENTRALIZATION STROKE BELOW,bPARENTHESES ABOVE,bDOUBLE PARENTHESES ABOVE",
  "bPARENTHESES BELOW,cOVERLAY,bLATIN SMALL LETTER W BELOW,eTURNED W BELOW",
  "bLEFT PARENTHESIS ABOVE LEFT,bRIGHT PARENTHESIS ABOVE RIGHT,bLEFT PARENTHESIS BELOW LEFT",
  "bRIGHT PARENTHESIS BELOW RIGHT,bSQUARE BRACKETS ABOVE,bNUMBER SIGN ABOVE",
  "bINVERTED DOUBLE ARCH ABOVE,bPLUS SIGN ABOVE,bDOUBLE PLUS SIGN ABOVE,eBELOW",
  "bTRIPLE ACUTE ACCENT,bLATIN SMALL LETTER INSULAR G,fR,fT,1B00aBALINESE SIGN ULU RICEM,dCANDRA",
  "cCECEK,cSURANG,cBISAH,bLETTER AKARA,dTEDUNG,cIKARA,dTEDUNG,cUKARA,dTEDUNG,cRA REPA,eTEDUNG",
  "cLA LENGA,eTEDUNG,cEKARA,cAIKARA,cOKARA,dTEDUNG,cKA,dMAHAPRANA,cGA,dGORA,cNGA,cCA,dLACA,cJA",
  "dJERA,cNYA,cTA LATIK,dMURDA MAHAPRANA,cDA MURDA ALPAPRANA,eMAHAPRANA,cNA RAMBAT,cTA,dTAWA,cDA",
  "dMADU,cNA,cPA,dKAPAL,cBA,dKEMBANG,cMA,cYA,cRA,cLA,cWA,cSA SAGA,dSAPA,cSA,cHA,bSIGN REREKAN",
  "bVOWEL SIGN TEDUNG,dULU,eSARI,dSUKU,eILUT,dRA REPA,fTEDUNG,dLA LENGA,fTEDUNG,dTALING,eREPA",
  "eTEDUNG,eREPA TEDUNG,dPEPET,eTEDUNG,bADEG ADEG,bLETTER KAF SASAK,cKHOT SASAK,cTZIR SASAK",
  "cEF SASAK,cVE SASAK,cZAL SASAK,cASYURA SASAK,cARCHAIC JNYA,1B50bDIGIT ZERO,cONE,cTWO,cTHREE",
  "cFOUR,cFIVE,cSIX,cSEVEN,cEIGHT,cNINE,bPANTI,bPAMADA,bWINDU,bCARIK PAMUNGKAH,cSIKI,cPAREREN",
  "bPAMENENG,bMUSICAL SYMBOL DONG,dDENG,dDUNG,dDANG,eSURANG,dDING,dDAENG,dDEUNG,dDAING,dDANG GEDE",
  "dCOMBINING TEGEH,eENDEP,eKEMPUL,eKEMPLI,eJEGOGAN,eKEMPUL WITH JEGOGAN,eKEMPLI WITH JEGOGAN",
  "eBENDE,eGONG,dRIGHT-HAND OPEN DUG,fDAG,eCLOSED TUK,fTAK,dLEFT-HAND OPEN PANG,fPUNG,eCLOSED PLAK",
  "fPLUK,eOPEN PING,bPANTI LANTANG,bPAMADA LANTANG,1B80aSUNDANESE SIGN PANYECEK,cPANGLAYAR",
  "cPANGWISAD,bLETTER A,cI,cU,cAE,cO,cE,cEU,cKA,cQA,cGA,cNGA,cCA,cJA,cZA,cNYA,cTA,cDA,cNA,cPA,cFA",
  "cVA,cBA,cMA,cYA,cRA,cLA,cWA,cSA,cXA,cHA,bCONSONANT SIGN PAMINGKAL,dPANYAKRA,dPANYIKU",
  "bVOWEL SIGN PANGHULU,dPANYUKU,dPANAELAENG,dPANOLONG,dPAMEPET,dPANEULEUNG,bSIGN PAMAAEH,cVIRAMA",
  "bCONSONANT SIGN PASANGAN MA,eWA,bLETTER KHA,cSYA,bDIGIT ZERO,cONE,cTWO,cTHREE,cFOUR,cFIVE,cSIX",
  "cSEVEN,cEIGHT,cNINE,bAVAGRAHA,bLETTER REU,cLEU,cBHA,cFINAL K,dM,aBATAK LETTER A,cSIMALUNGUN A",
  "cHA,cSIMALUNGUN HA,cMANDAILING HA,cBA,cKARO BA,cPA,cSIMALUNGUN PA,cNA,cMANDAILING NA,cWA",
  "cSIMALUNGUN WA,cPAKPAK WA,cGA,cSIMALUNGUN GA,cJA,cDA,cRA,cSIMALUNGUN RA,cMA,cSIMALUNGUN MA",
  "cSOUTHERN TA,cNORTHERN TA,cSA,cSIMALUNGUN SA,cMANDAILING SA,cYA,cSIMALUNGUN YA,cNGA,cLA",
  "cSIMALUNGUN LA,cNYA,cCA,cNDA,cMBA,cI,cU,bSIGN TOMPI,bVOWEL SIGN E,dPAKPAK E,dEE,dI,dKARO I,dO",
  "dKARO O,dU,eFOR SIMALUNGUN SA,bCONSONANT SIGN NG,dH,bPANGOLAT,bPANONGONAN",
  "1BFCbSYMBOL BINDU NA METEK,dPINARBORAS,dJUDUL,dPANGOLAT,aLEPCHA LETTER KA,cKLA,cKHA,cGA,cGLA",
  "cNGA,cCA,cCHA,cJA,cNYA,cTA,cTHA,cDA,cNA,cPA,cPLA,cPHA,cFA,cFLA,cBA,cBLA,cMA,cMLA,cTSA,cTSHA",
  "cDZA,cYA,cRA,cLA,cHA,cHLA,cVA,cSA,cSHA,cWA,cA,bSUBJOINED LETTER YA,dRA,bVOWEL SIGN AA,dI,dO,dOO",
  "dU,dUU,dE,bCONSONANT SIGN K,dM,dL,dN,dP,dR,dT,dNYIN-DO,dKANG,bSIGN RAN,cNUKTA",
  "1C3BbPUNCTUATION TA-ROL,cNYET THYOOM TA-ROL,cCER-WA,cTSHOOK CER-WA,cTSHOOK,bDIGIT ZERO,cONE",
  "cTWO,cTHREE,cFOUR,cFIVE,cSIX,cSEVEN,cEIGHT,cNINE,1C4DbLETTER TTA,cTTHA,cDDA",
  "aOL CHIKI DIGIT ZERO,dONE,dTWO,dTHREE,dFOUR,dFIVE,dSIX,dSEVEN,dEIGHT,dNINE,cLETTER LA,dAT,dAG",
  "dANG,dAL,dLAA,dAAK,dAAJ,dAAM,dAAW,dLI,dIS,dIH,dINY,dIR,dLU,dUC,dUD,dUNN,dUY,dLE,dEP,dEDD,dEN",
  "dERR,dLO,dOTT,dOB,dOV,dOH,cMU TTUDDAG,cGAAHLAA TTUDDAAG,cMU-GAAHLAA TTUDDAAG,cRELAA,cPHAARKAA",
  "cAHAD,cPUNCTUATION MUCAAD,dDOUBLE MUCAAD,aCYRILLIC SMALL LETTER ROUNDED VE,dLONG-LEGGED DE",
  "dNARROW O,dWIDE ES,dTALL TE,dTHREE-LEGGED TE,dTALL HARD SIGN,eYAT,dUNBLENDED UK",
  "1C90aGEORGIAN MTAVRULI CAPITAL LETTER AN,eBAN,eGAN,eDON,eEN,eVIN,eZEN,eTAN,eIN,eKAN,eLAS,eMAN",
  "eNAR,eON,ePAR,eZHAR,eRAE,eSAN,eTAR,eUN,ePHAR,eKHAR,eGHAN,eQAR,eSHIN,eCHIN,eCAN,eJIL,eCIL,eCHAR",
  "eXAN,eJHAN,eHAE,eHE,eHIE,eWE,eHAR,eHOE,eFI,eYN,eELIFI,eTURNED GAN,eAIN,1CBDeAEN,eHARD SIGN",
  "eLABIAL SIGN,aSUNDANESE PUNCTUATION BINDU SURYA,dPANGLONG,dPURNAMA,dCAKRA,dLEU SATANGA",
  "dKA SATANGA,dDA SATANGA,dBA SATANGA,1CD0aVEDIC TONE KARSHANA,cSHARA,cPRENKHA,bSIGN NIHSHVASA",
  "cYAJURVEDIC MIDLINE SVARITA,bTONE YAJURVEDIC AGGRAVATED INDEPENDENT SVARITA",
  "dINDEPENDENT SVARITA,dKATHAKA INDEPENDENT SVARITA,cCANDRA BELOW",
  "cYAJURVEDIC KATHAKA INDEPENDENT SVARITA SCHROEDER,cDOUBLE SVARITA,cTRIPLE SVARITA",
  "cKATHAKA ANUDATTA,cDOT BELOW,cTWO DOTS BELOW,cTHREE DOTS BELOW",
  "cRIGVEDIC KASHMIRI INDEPENDENT SVARITA,cATHARVAVEDIC INDEPENDENT SVARITA,bSIGN VISARGA SVARITA",
  "dUDATTA,cREVERSED VISARGA UDATTA,cVISARGA ANUDATTA,cREVERSED VISARGA ANUDATTA",
  "cVISARGA UDATTA WITH TAIL,dANUDATTA WITH TAIL,cANUSVARA ANTARGOMUKHA,dBAHIRGOMUKHA,dVAMAGOMUKHA",
  "eWITH TAIL,cTIRYAK,cHEXIFORM LONG ANUSVARA,cLONG ANUSVARA,cRTHANG LONG ANUSVARA",
  "cANUSVARA UBHAYATO MUKHA,cARDHAVISARGA,cROTATED ARDHAVISARGA,bTONE CANDRA ABOVE",
  "bSIGN JIHVAMULIYA,cUPADHMANIYA,cATIKRAMA,bTONE RING ABOVE,cDOUBLE RING ABOVE",
  "bSIGN DOUBLE ANUSVARA ANTARGOMUKHA,1D00aLATIN LETTER SMALL CAPITAL A,eAE",
  "bSMALL LETTER TURNED AE,bLETTER SMALL CAPITAL BARRED B,eC,eD,eETH,eE",
  "bSMALL LETTER TURNED OPEN E,eI,bLETTER SMALL CAPITAL J,eK,eL WITH STROKE,eM,eREVERSED N,eO",
  "eOPEN O,bSMALL LETTER SIDEWAYS O,eOPEN O,eO WITH STROKE,dTURNED OE,bLETTER SMALL CAPITAL OU",
  "bSMALL LETTER TOP HALF O,dBOTTOM HALF O,bLETTER SMALL CAPITAL P,eREVERSED R,eTURNED R,eT,eU",
  "bSMALL LETTER SIDEWAYS U,eDIAERESIZED U,eTURNED M,bLETTER SMALL CAPITAL V,eW,eZ,eEZH",
  "cVOICED LARYNGEAL SPIRANT,cAIN,aGREEK LETTER SMALL CAPITAL GAMMA,eLAMDA,ePI,eRHO,ePSI",
  "aCYRILLIC LETTER SMALL CAPITAL EL,aMODIFIER LETTER CAPITAL A,dAE,dB,dBARRED B,dD,dE,dREVERSED E",
  "dG,dH,dI,dJ,dK,dL,dM,dN,dREVERSED N,dO,dOU,dP,dR,dT,dU,dW,cSMALL A,dTURNED A,dALPHA,dTURNED AE",
  "dB,dD,dE,dSCHWA,dOPEN E,dTURNED OPEN E,dG,dTURNED I,dK,dM,dENG,dO,dOPEN O,dTOP HALF O",
  "dBOTTOM HALF O,dP,dT,dU,dSIDEWAYS U,dTURNED M,dV,dAIN,dBETA,dGREEK GAMMA,dDELTA,dGREEK PHI,dCHI",
  "aLATIN SUBSCRIPT SMALL LETTER I,eR,eU,eV,aGREEK SUBSCRIPT SMALL LETTER BETA,eGAMMA,eRHO,ePHI",
  "eCHI,aLATIN SMALL LETTER UE,dB WITH MIDDLE TILDE,dD WITH MIDDLE TILDE,dF WITH MIDDLE TILDE",
  "dM WITH MIDDLE TILDE,dN WITH MIDDLE TILDE,dP WITH MIDDLE TILDE,dR WITH MIDDLE TILDE",
  "fFISHHOOK AND MIDDLE TILDE,dS WITH MIDDLE TILDE,dT WITH MIDDLE TILDE,dZ WITH MIDDLE TILDE",
  "dTURNED G,aMODIFIER LETTER CYRILLIC EN,aLATIN SMALL LETTER INSULAR G,dTH WITH STRIKETHROUGH",
  "cCAPITAL LETTER I WITH STROKE,cLETTER IOTA WITH STROKE,dP WITH STROKE",
  "cCAPITAL LETTER U WITH STROKE,cLETTER UPSILON WITH STROKE,dB WITH PALATAL HOOK",
  "dD WITH PALATAL HOOK,dF WITH PALATAL HOOK,dG WITH PALATAL HOOK,dK WITH PALATAL HOOK",
  "dL WITH PALATAL HOOK,dM WITH PALATAL HOOK,dN WITH PALATAL HOOK,dP WITH PALATAL HOOK",
  "dR WITH PALATAL HOOK,dS WITH PALATAL HOOK,dESH WITH PALATAL HOOK,dV WITH PALATAL HOOK",
  "dX WITH PALATAL HOOK,dZ WITH PALATAL HOOK,dA WITH RETROFLEX HOOK,dALPHA WITH RETROFLEX HOOK",
  "dD WITH HOOK AND TAIL,dE WITH RETROFLEX HOOK,dOPEN E WITH RETROFLEX HOOK",
  "dREVERSED OPEN E WITH RETROFLEX HOOK,dSCHWA WITH RETROFLEX HOOK,dI WITH RETROFLEX HOOK",
  "dOPEN O WITH RETROFLEX HOOK,dESH WITH RETROFLEX HOOK,dU WITH RETROFLEX HOOK",
  "dEZH WITH RETROFLEX HOOK,aMODIFIER LETTER SMALL TURNED ALPHA,dC,eWITH CURL,dETH",
  "dREVERSED OPEN E,dF,dDOTLESS J WITH STROKE,dSCRIPT G,dTURNED H,dI WITH STROKE,dIOTA,dCAPITAL I",
  "fWITH STROKE,dJ WITH CROSSED-TAIL,dL WITH RETROFLEX HOOK,fPALATAL HOOK,dCAPITAL L,dM WITH HOOK",
  "dTURNED M WITH LONG LEG,dN WITH LEFT HOOK,fRETROFLEX HOOK,dCAPITAL N,dBARRED O,dPHI",
  "dS WITH HOOK,dESH,dT WITH PALATAL HOOK,dU BAR,dUPSILON,dCAPITAL U,dV WITH HOOK,dTURNED V,dZ",
  "eWITH RETROFLEX HOOK,fCURL,dEZH,dTHETA,aCOMBINING DOTTED GRAVE ACCENT,cACUTE ACCENT",
  "bSNAKE BELOW,bSUSPENSION MARK,bMACRON-ACUTE,bGRAVE-MACRON,bMACRON-GRAVE,bACUTE-MACRON",
  "bGRAVE-ACUTE-GRAVE,bACUTE-GRAVE-ACUTE,bLATIN SMALL LETTER R BELOW,bBREVE-MACRON,bMACRON-BREVE",
  "bDOUBLE CIRCUMFLEX ABOVE,bOGONEK ABOVE,bZIGZAG BELOW,bIS BELOW,bUR ABOVE,bUS ABOVE",
  "bLATIN SMALL LETTER FLATTENED OPEN A ABOVE,eAE,eAO,eAV,eC CEDILLA,eINSULAR D,eETH,eG",
  "cLETTER SMALL CAPITAL G,cSMALL LETTER K,eL,cLETTER SMALL CAPITAL L,fM,cSMALL LETTER N",
  "cLETTER SMALL CAPITAL N,fR,cSMALL LETTER R ROTUNDA,eS,eLONG S,eZ,eALPHA,eB,eBETA,eSCHWA,eF",
  "eL WITH DOUBLE MIDDLE TILDE,eO WITH LIGHT CENTRALIZATION STROKE,eP,eESH",
  "eU WITH LIGHT CENTRALIZATION STROKE,eW,eA WITH DIAERESIS,eO WITH DIAERESIS,eU WITH DIAERESIS",
  "bUP TACK ABOVE,bKAVYKA ABOVE RIGHT,dLEFT,bDOT ABOVE LEFT,bWIDE INVERTED BRIDGE BELOW",
  "bDOT BELOW LEFT,bDELETION MARK,bDOUBLE INVERTED BREVE BELOW,bALMOST EQUAL TO BELOW",
  "bLEFT ARROWHEAD ABOVE,bRIGHT ARROWHEAD AND DOWN ARROWHEAD BELOW",
  "aLATIN CAPITAL LETTER A WITH RING BELOW,bSMALL LETTER A WITH RING BELOW",
  "bCAPITAL LETTER B WITH DOT ABOVE,bSMALL LETTER B WITH DOT ABOVE",
  "bCAPITAL LETTER B WITH DOT BELOW,bSMALL LETTER B WITH DOT BELOW",
  "bCAPITAL LETTER B WITH LINE BELOW,bSMALL LETTER B WITH LINE BELOW",
  "bCAPITAL LETTER C WITH CEDILLA AND ACUTE,bSMALL LETTER C WITH CEDILLA AND ACUTE",
  "bCAPITAL LETTER D WITH DOT ABOVE,bSMALL LETTER D WITH DOT ABOVE",
  "bCAPITAL LETTER D WITH DOT BELOW,bSMALL LETTER D WITH DOT BELOW",
  "bCAPITAL LETTER D WITH LINE BELOW,bSMALL LETTER D WITH LINE BELOW",
  "bCAPITAL LETTER D WITH CEDILLA,bSMALL LETTER D WITH CEDILLA",
  "bCAPITAL LETTER D WITH CIRCUMFLEX BELOW,bSMALL LETTER D WITH CIRCUMFLEX BELOW",
  "bCAPITAL LETTER E WITH MACRON AND GRAVE,bSMALL LETTER E WITH MACRON AND GRAVE",
  "bCAPITAL LETTER E WITH MACRON AND ACUTE,bSMALL LETTER E WITH MACRON AND ACUTE",
  "bCAPITAL LETTER E WITH CIRCUMFLEX BELOW,bSMALL LETTER E WITH CIRCUMFLEX BELOW",
  "bCAPITAL LETTER E WITH TILDE BELOW,bSMALL LETTER E WITH TILDE BELOW",
  "bCAPITAL LETTER E WITH CEDILLA AND BREVE,bSMALL LETTER E WITH CEDILLA AND BREVE",
  "bCAPITAL LETTER F WITH DOT ABOVE,bSMALL LETTER F WITH DOT ABOVE,bCAPITAL LETTER G WITH MACRON",
  "bSMALL LETTER G WITH MACRON,bCAPITAL LETTER H WITH DOT ABOVE,bSMALL LETTER H WITH DOT ABOVE",
  "bCAPITAL LETTER H WITH DOT BELOW,bSMALL LETTER H WITH DOT BELOW",
  "bCAPITAL LETTER H WITH DIAERESIS,bSMALL LETTER H WITH DIAERESIS,bCAPITAL LETTER H WITH CEDILLA",
  "bSMALL LETTER H WITH CEDILLA,bCAPITAL LETTER H WITH BREVE BELOW",
  "bSMALL LETTER H WITH BREVE BELOW,bCAPITAL LETTER I WITH TILDE BELOW",
  "bSMALL LETTER I WITH TILDE BELOW,bCAPITAL LETTER I WITH DIAERESIS AND ACUTE",
  "bSMALL LETTER I WITH DIAERESIS AND ACUTE,bCAPITAL LETTER K WITH ACUTE",
  "bSMALL LETTER K WITH ACUTE,bCAPITAL LETTER K WITH DOT BELOW,bSMALL LETTER K WITH DOT BELOW",
  "bCAPITAL LETTER K WITH LINE BELOW,bSMALL LETTER K WITH LINE BELOW",
  "bCAPITAL LETTER L WITH DOT BELOW,bSMALL LETTER L WITH DOT BELOW",
  "bCAPITAL LETTER L WITH DOT BELOW AND MACRON,bSMALL LETTER L WITH DOT BELOW AND MACRON",
  "bCAPITAL LETTER L WITH LINE BELOW,bSMALL LETTER L WITH LINE BELOW",
  "bCAPITAL LETTER L WITH CIRCUMFLEX BELOW,bSMALL LETTER L WITH CIRCUMFLEX BELOW",
  "bCAPITAL LETTER M WITH ACUTE,bSMALL LETTER M WITH ACUTE,bCAPITAL LETTER M WITH DOT ABOVE",
  "bSMALL LETTER M WITH DOT ABOVE,bCAPITAL LETTER M WITH DOT BELOW,bSMALL LETTER M WITH DOT BELOW",
  "bCAPITAL LETTER N WITH DOT ABOVE,bSMALL LETTER N WITH DOT ABOVE",
  "bCAPITAL LETTER N WITH DOT BELOW,bSMALL LETTER N WITH DOT BELOW",
  "bCAPITAL LETTER N WITH LINE BELOW,bSMALL LETTER N WITH LINE BELOW",
  "bCAPITAL LETTER N WITH CIRCUMFLEX BELOW,bSMALL LETTER N WITH CIRCUMFLEX BELOW",
  "bCAPITAL LETTER O WITH TILDE AND ACUTE,bSMALL LETTER O WITH TILDE AND ACUTE",
  "bCAPITAL LETTER O WITH TILDE AND DIAERESIS,bSMALL LETTER O WITH TILDE AND DIAERESIS",
  "bCAPITAL LETTER O WITH MACRON AND GRAVE,bSMALL LETTER O WITH MACRON AND GRAVE",
  "bCAPITAL LETTER O WITH MACRON AND ACUTE,bSMALL LETTER O WITH MACRON AND ACUTE",
  "bCAPITAL LETTER P WITH ACUTE,bSMALL LETTER P WITH ACUTE,bCAPITAL LETTER P WITH DOT ABOVE",
  "bSMALL LETTER P WITH DOT ABOVE,bCAPITAL LETTER R WITH DOT ABOVE,bSMALL LETTER R WITH DOT ABOVE",
  "bCAPITAL LETTER R WITH DOT BELOW,bSMALL LETTER R WITH DOT BELOW",
  "bCAPITAL LETTER R WITH DOT BELOW AND MACRON,bSMALL LETTER R WITH DOT BELOW AND MACRON",
  "bCAPITAL LETTER R WITH LINE BELOW,bSMALL LETTER R WITH LINE BELOW",
  "bCAPITAL LETTER S WITH DOT ABOVE,bSMALL LETTER S WITH DOT ABOVE",
  "bCAPITAL LETTER S WITH DOT BELOW,bSMALL LETTER S WITH DOT BELOW",
  "bCAPITAL LETTER S WITH ACUTE AND DOT ABOVE,bSMALL LETTER S WITH ACUTE AND DOT ABOVE",
  "bCAPITAL LETTER S WITH CARON AND DOT ABOVE,bSMALL LETTER S WITH CARON AND DOT ABOVE",
  "bCAPITAL LETTER S WITH DOT BELOW AND DOT ABOVE,bSMALL LETTER S WITH DOT BELOW AND DOT ABOVE",
  "bCAPITAL LETTER T WITH DOT ABOVE,bSMALL LETTER T WITH DOT ABOVE",
  "bCAPITAL LETTER T WITH DOT BELOW,bSMALL LETTER T WITH DOT BELOW",
  "bCAPITAL LETTER T WITH LINE BELOW,bSMALL LETTER T WITH LINE BELOW",
  "bCAPITAL LETTER T WITH CIRCUMFLEX BELOW,bSMALL LETTER T WITH CIRCUMFLEX BELOW",
  "bCAPITAL LETTER U WITH DIAERESIS BELOW,bSMALL LETTER U WITH DIAERESIS BELOW",
  "bCAPITAL LETTER U WITH TILDE BELOW,bSMALL LETTER U WITH TILDE BELOW",
  "bCAPITAL LETTER U WITH CIRCUMFLEX BELOW,bSMALL LETTER U WITH CIRCUMFLEX BELOW",
  "bCAPITAL LETTER U WITH TILDE AND ACUTE,bSMALL LETTER U WITH TILDE AND ACUTE",
  "bCAPITAL LETTER U WITH MACRON AND DIAERESIS,bSMALL LETTER U WITH MACRON AND DIAERESIS",
  "bCAPITAL LETTER V WITH TILDE,bSMALL LETTER V WITH TILDE,bCAPITAL LETTER V WITH DOT BELOW",
  "bSMALL LETTER V WITH DOT BELOW,bCAPITAL LETTER W WITH GRAVE,bSMALL LETTER W WITH GRAVE",
  "bCAPITAL LETTER W WITH ACUTE,bSMALL LETTER W WITH ACUTE,bCAPITAL LETTER W WITH DIAERESIS",
  "bSMALL LETTER W WITH DIAERESIS,bCAPITAL LETTER W WITH DOT ABOVE,bSMALL LETTER W WITH DOT ABOVE",
  "bCAPITAL LETTER W WITH DOT BELOW,bSMALL LETTER W WITH DOT BELOW",
  "bCAPITAL LETTER X WITH DOT ABOVE,bSMALL LETTER X WITH DOT ABOVE",
  "bCAPITAL LETTER X WITH DIAERESIS,bSMALL LETTER X WITH DIAERESIS",
  "bCAPITAL LETTER Y WITH DOT ABOVE,bSMALL LETTER Y WITH DOT ABOVE",
  "bCAPITAL LETTER Z WITH CIRCUMFLEX,bSMALL LETTER Z WITH CIRCUMFLEX",
  "bCAPITAL LETTER Z WITH DOT BELOW,bSMALL LETTER Z WITH DOT BELOW",
  "bCAPITAL LETTER Z WITH LINE BELOW,bSMALL LETTER Z WITH LINE BELOW,dH WITH LINE BELOW",
  "dT WITH DIAERESIS,dW WITH RING ABOVE,dY WITH RING ABOVE,dA WITH RIGHT HALF RING",
  "dLONG S WITH DOT ABOVE,gDIAGONAL STROKE,gHIGH STROKE,bCAPITAL LETTER SHARP S",
  "bSMALL LETTER DELTA,bCAPITAL LETTER A WITH DOT BELOW,bSMALL LETTER A WITH DOT BELOW",
  "bCAPITAL LETTER A WITH HOOK ABOVE,bSMALL LETTER A WITH HOOK ABOVE",
  "bCAPITAL LETTER A WITH CIRCUMFLEX AND ACUTE,bSMALL LETTER A WITH CIRCUMFLEX AND ACUTE",
  "bCAPITAL LETTER A WITH CIRCUMFLEX AND GRAVE,bSMALL LETTER A WITH CIRCUMFLEX AND GRAVE",
  "bCAPITAL LETTER A WITH CIRCUMFLEX AND HOOK ABOVE,bSMALL LETTER A WITH CIRCUMFLEX AND HOOK ABOVE",
  "bCAPITAL LETTER A WITH CIRCUMFLEX AND TILDE,bSMALL LETTER A WITH CIRCUMFLEX AND TILDE",
  "bCAPITAL LETTER A WITH CIRCUMFLEX AND DOT BELOW,bSMALL LETTER A WITH CIRCUMFLEX AND DOT BELOW",
  "bCAPITAL LETTER A WITH BREVE AND ACUTE,bSMALL LETTER A WITH BREVE AND ACUTE",
  "bCAPITAL LETTER A WITH BREVE AND GRAVE,bSMALL LETTER A WITH BREVE AND GRAVE",
  "bCAPITAL LETTER A WITH BREVE AND HOOK ABOVE,bSMALL LETTER A WITH BREVE AND HOOK ABOVE",
  "bCAPITAL LETTER A WITH BREVE AND TILDE,bSMALL LETTER A WITH BREVE AND TILDE",
  "bCAPITAL LETTER A WITH BREVE AND DOT BELOW,bSMALL LETTER A WITH BREVE AND DOT BELOW",
  "bCAPITAL LETTER E WITH DOT BELOW,bSMALL LETTER E WITH DOT BELOW",
  "bCAPITAL LETTER E WITH HOOK ABOVE,bSMALL LETTER E WITH HOOK ABOVE,bCAPITAL LETTER E WITH TILDE",
  "bSMALL LETTER E WITH TILDE,bCAPITAL LETTER E WITH CIRCUMFLEX AND ACUTE",
  "bSMALL LETTER E WITH CIRCUMFLEX AND ACUTE,bCAPITAL LETTER E WITH CIRCUMFLEX AND GRAVE",
  "bSMALL LETTER E WITH CIRCUMFLEX AND GRAVE,bCAPITAL LETTER E WITH CIRCUMFLEX AND HOOK ABOVE",
  "bSMALL LETTER E WITH CIRCUMFLEX AND HOOK ABOVE,bCAPITAL LETTER E WITH CIRCUMFLEX AND TILDE",
  "bSMALL LETTER E WITH CIRCUMFLEX AND TILDE,bCAPITAL LETTER E WITH CIRCUMFLEX AND DOT BELOW",
  "bSMALL LETTER E WITH CIRCUMFLEX AND DOT BELOW,bCAPITAL LETTER I WITH HOOK ABOVE",
  "bSMALL LETTER I WITH HOOK ABOVE,bCAPITAL LETTER I WITH DOT BELOW,bSMALL LETTER I WITH DOT BELOW",
  "bCAPITAL LETTER O WITH DOT BELOW,bSMALL LETTER O WITH DOT BELOW",
  "bCAPITAL LETTER O WITH HOOK ABOVE,bSMALL LETTER O WITH HOOK ABOVE",
  "bCAPITAL LETTER O WITH CIRCUMFLEX AND ACUTE,bSMALL LETTER O WITH CIRCUMFLEX AND ACUTE",
  "bCAPITAL LETTER O WITH CIRCUMFLEX AND GRAVE,bSMALL LETTER O WITH CIRCUMFLEX AND GRAVE",
  "bCAPITAL LETTER O WITH CIRCUMFLEX AND HOOK ABOVE,bSMALL LETTER O WITH CIRCUMFLEX AND HOOK ABOVE",
  "bCAPITAL LETTER O WITH CIRCUMFLEX AND TILDE,bSMALL LETTER O WITH CIRCUMFLEX AND TILDE",
  "bCAPITAL LETTER O WITH CIRCUMFLEX AND DOT BELOW,bSMALL LETTER O WITH CIRCUMFLEX AND DOT BELOW",
  "bCAPITAL LETTER O WITH HORN AND ACUTE,bSMALL LETTER O WITH HORN AND ACUTE",
  "bCAPITAL LETTER O WITH HORN AND GRAVE,bSMALL LETTER O WITH HORN AND GRAVE",
  "bCAPITAL LETTER O WITH HORN AND HOOK ABOVE,bSMALL LETTER O WITH HORN AND HOOK ABOVE",
  "bCAPITAL LETTER O WITH HORN AND TILDE,bSMALL LETTER O WITH HORN AND TILDE",
  "bCAPITAL LETTER O WITH HORN AND DOT BELOW,bSMALL LETTER O WITH HORN AND DOT BELOW",
  "bCAPITAL LETTER U WITH DOT BELOW,bSMALL LETTER U WITH DOT BELOW",
  "bCAPITAL LETTER U WITH HOOK ABOVE,bSMALL LETTER U WITH HOOK ABOVE",
  "bCAPITAL LETTER U WITH HORN AND ACUTE,bSMALL LETTER U WITH HORN AND ACUTE",
  "bCAPITAL LETTER U WITH HORN AND GRAVE,bSMALL LETTER U WITH HORN AND GRAVE",
  "bCAPITAL LETTER U WITH HORN AND HOOK ABOVE,bSMALL LETTER U WITH HORN AND HOOK ABOVE",
  "bCAPITAL LETTER U WITH HORN AND TILDE,bSMALL LETTER U WITH HORN AND TILDE",
  "bCAPITAL LETTER U WITH HORN AND DOT BELOW,bSMALL LETTER U WITH HORN AND DOT BELOW",
  "bCAPITAL LETTER Y WITH GRAVE,bSMALL LETTER Y WITH GRAVE,bCAPITAL LETTER Y WITH DOT BELOW",
  "bSMALL LETTER Y WITH DOT BELOW,bCAPITAL LETTER Y WITH HOOK ABOVE",
  "bSMALL LETTER Y WITH HOOK ABOVE,bCAPITAL LETTER Y WITH TILDE,bSMALL LETTER Y WITH TILDE",
  "bCAPITAL LETTER MIDDLE-WELSH LL,bSMALL LETTER MIDDLE-WELSH LL,bCAPITAL LETTER MIDDLE-WELSH V",
  "bSMALL LETTER MIDDLE-WELSH V,bCAPITAL LETTER Y WITH LOOP,bSMALL LETTER Y WITH LOOP",
  "aGREEK SMALL LETTER ALPHA WITH PSILI,fDASIA,fPSILI AND VARIA,fDASIA AND VARIA,fPSILI AND OXIA",
  "fDASIA AND OXIA,fPSILI AND PERISPOMENI,fDASIA AND PERISPOMENI,bCAPITAL LETTER ALPHA WITH PSILI",
  "fDASIA,fPSILI AND VARIA,fDASIA AND VARIA,fPSILI AND OXIA,fDASIA AND OXIA,fPSILI AND PERISPOMENI",
  "fDASIA AND PERISPOMENI,bSMALL LETTER EPSILON WITH PSILI,fDASIA,fPSILI AND VARIA",
  "fDASIA AND VARIA,fPSILI AND OXIA,fDASIA AND OXIA,1F18bCAPITAL LETTER EPSILON WITH PSILI,fDASIA",
  "fPSILI AND VARIA,fDASIA AND VARIA,fPSILI AND OXIA,fDASIA AND OXIA",
  "1F20bSMALL LETTER ETA WITH PSILI,fDASIA,fPSILI AND VARIA,fDASIA AND VARIA,fPSILI AND OXIA",
  "fDASIA AND OXIA,fPSILI AND PERISPOMENI,fDASIA AND PERISPOMENI,bCAPITAL LETTER ETA WITH PSILI",
  "fDASIA,fPSILI AND VARIA,fDASIA AND VARIA,fPSILI AND OXIA,fDASIA AND OXIA,fPSILI AND PERISPOMENI",
  "fDASIA AND PERISPOMENI,bSMALL LETTER IOTA WITH PSILI,fDASIA,fPSILI AND VARIA,fDASIA AND VARIA",
  "fPSILI AND OXIA,fDASIA AND OXIA,fPSILI AND PERISPOMENI,fDASIA AND PERISPOMENI",
  "bCAPITAL LETTER IOTA WITH PSILI,fDASIA,fPSILI AND VARIA,fDASIA AND VARIA,fPSILI AND OXIA",
  "fDASIA AND OXIA,fPSILI AND PERISPOMENI,fDASIA AND PERISPOMENI,bSMALL LETTER OMICRON WITH PSILI",
  "fDASIA,fPSILI AND VARIA,fDASIA AND VARIA,fPSILI AND OXIA,fDASIA AND OXIA",
  "1F48bCAPITAL LETTER OMICRON WITH PSILI,fDASIA,fPSILI AND VARIA,fDASIA AND VARIA,fPSILI AND OXIA",
  "fDASIA AND OXIA,1F50bSMALL LETTER UPSILON WITH PSILI,fDASIA,fPSILI AND VARIA,fDASIA AND VARIA",
  "fPSILI AND OXIA,fDASIA AND OXIA,fPSILI AND PERISPOMENI,fDASIA AND PERISPOMENI",
  "1F59bCAPITAL LETTER UPSILON WITH DASIA,1F5BgAND VARIA,1F5DhOXIA,1F5FhPERISPOMENI",
  "bSMALL LETTER OMEGA WITH PSILI,fDASIA,fPSILI AND VARIA,fDASIA AND VARIA,fPSILI AND OXIA",
  "fDASIA AND OXIA,fPSILI AND PERISPOMENI,fDASIA AND PERISPOMENI,bCAPITAL LETTER OMEGA WITH PSILI",
  "fDASIA,fPSILI AND VARIA,fDASIA AND VARIA,fPSILI AND OXIA,fDASIA AND OXIA,fPSILI AND PERISPOMENI",
  "fDASIA AND PERISPOMENI,bSMALL LETTER ALPHA WITH VARIA,fOXIA,dEPSILON WITH VARIA,fOXIA",
  "dETA WITH VARIA,fOXIA,dIOTA WITH VARIA,fOXIA,dOMICRON WITH VARIA,fOXIA,dUPSILON WITH VARIA",
  "fOXIA,dOMEGA WITH VARIA,fOXIA,1F80dALPHA WITH PSILI AND YPOGEGRAMMENI,fDASIA AND YPOGEGRAMMENI",
  "fPSILI AND VARIA AND YPOGEGRAMMENI,fDASIA AND VARIA AND YPOGEGRAMMENI",
  "fPSILI AND OXIA AND YPOGEGRAMMENI,fDASIA AND OXIA AND YPOGEGRAMMENI",
  "fPSILI AND PERISPOMENI AND YPOGEGRAMMENI,fDASIA AND PERISPOMENI AND YPOGEGRAMMENI",
  "bCAPITAL LETTER ALPHA WITH PSILI AND PROSGEGRAMMENI,fDASIA AND PROSGEGRAMMENI",
  "fPSILI AND VARIA AND PROSGEGRAMMENI,fDASIA AND VARIA AND PROSGEGRAMMENI",
  "fPSILI AND OXIA AND PROSGEGRAMMENI,fDASIA AND OXIA AND PROSGEGRAMMENI",
  "fPSILI AND PERISPOMENI AND PROSGEGRAMMENI,fDASIA AND PERISPOMENI AND PROSGEGRAMMENI",
  "bSMALL LETTER ETA WITH PSILI AND YPOGEGRAMMENI,fDASIA AND YPOGEGRAMMENI",
  "fPSILI AND VARIA AND YPOGEGRAMMENI,fDASIA AND VARIA AND YPOGEGRAMMENI",
  "fPSILI AND OXIA AND YPOGEGRAMMENI,fDASIA AND OXIA AND YPOGEGRAMMENI",
  "fPSILI AND PERISPOMENI AND YPOGEGRAMMENI,fDASIA AND PERISPOMENI AND YPOGEGRAMMENI",
  "bCAPITAL LETTER ETA WITH PSILI AND PROSGEGRAMMENI,fDASIA AND PROSGEGRAMMENI",
  "fPSILI AND VARIA AND PROSGEGRAMMENI,fDASIA AND VARIA AND PROSGEGRAMMENI",
  "fPSILI AND OXIA AND PROSGEGRAMMENI,fDASIA AND OXIA AND PROSGEGRAMMENI",
  "fPSILI AND PERISPOMENI AND PROSGEGRAMMENI,fDASIA AND PERISPOMENI AND PROSGEGRAMMENI",
  "bSMALL LETTER OMEGA WITH PSILI AND YPOGEGRAMMENI,fDASIA AND YPOGEGRAMMENI",
  "fPSILI AND VARIA AND YPOGEGRAMMENI,fDASIA AND VARIA AND YPOGEGRAMMENI",
  "fPSILI AND OXIA AND YPOGEGRAMMENI,fDASIA AND OXIA AND YPOGEGRAMMENI",
  "fPSILI AND PERISPOMENI AND YPOGEGRAMMENI,fDASIA AND PERISPOMENI AND YPOGEGRAMMENI",
  "bCAPITAL LETTER OMEGA WITH PSILI AND PROSGEGRAMMENI,fDASIA AND PROSGEGRAMMENI",
  "fPSILI AND VARIA AND PROSGEGRAMMENI,fDASIA AND VARIA AND PROSGEGRAMMENI",
  "fPSILI AND OXIA AND PROSGEGRAMMENI,fDASIA AND OXIA AND PROSGEGRAMMENI",
  "fPSILI AND PERISPOMENI AND PROSGEGRAMMENI,fDASIA AND PERISPOMENI AND PROSGEGRAMMENI",
  "bSMALL LETTER ALPHA WITH VRACHY,fMACRON,fVARIA AND YPOGEGRAMMENI,fYPOGEGRAMMENI",
  "fOXIA AND YPOGEGRAMMENI,1FB6fPERISPOMENI,gAND YPOGEGRAMMENI,bCAPITAL LETTER ALPHA WITH VRACHY",
  "fMACRON,fVARIA,fOXIA,fPROSGEGRAMMENI,bKORONIS,bPROSGEGRAMMENI,bPSILI,bPERISPOMENI",
  "bDIALYTIKA AND PERISPOMENI,bSMALL LETTER ETA WITH VARIA AND YPOGEGRAMMENI,fYPOGEGRAMMENI",
  "fOXIA AND YPOGEGRAMMENI,1FC6fPERISPOMENI,gAND YPOGEGRAMMENI,bCAPITAL LETTER EPSILON WITH VARIA",
  "fOXIA,dETA WITH VARIA,fOXIA,fPROSGEGRAMMENI,bPSILI AND VARIA,dOXIA,dPERISPOMENI",
  "bSMALL LETTER IOTA WITH VRACHY,fMACRON,fDIALYTIKA AND VARIA,hOXIA,1FD6fPERISPOMENI",
  "fDIALYTIKA AND PERISPOMENI,bCAPITAL LETTER IOTA WITH VRACHY,fMACRON,fVARIA,fOXIA",
  "1FDDbDASIA AND VARIA,dOXIA,dPERISPOMENI,bSMALL LETTER UPSILON WITH VRACHY,fMACRON",
  "fDIALYTIKA AND VARIA,hOXIA,dRHO WITH PSILI,fDASIA,dUPSILON WITH PERISPOMENI",
  "fDIALYTIKA AND PERISPOMENI,bCAPITAL LETTER UPSILON WITH VRACHY,fMACRON,fVARIA,fOXIA",
  "dRHO WITH DASIA,bDIALYTIKA AND VARIA,dOXIA,bVARIA",
  "1FF2bSMALL LETTER OMEGA WITH VARIA AND YPOGEGRAMMENI,fYPOGEGRAMMENI,fOXIA AND YPOGEGRAMMENI",
  "1FF6fPERISPOMENI,gAND YPOGEGRAMMENI,bCAPITAL LETTER OMICRON WITH VARIA,fOXIA,dOMEGA WITH VARIA",
  "fOXIA,fPROSGEGRAMMENI,bOXIA,bDASIA"]

end Holdings.Text.CharName
