import SdkGraft.Text.Blank

/-!
# Names of characters

The characters of Unicode 14.0 by their names.

* `nameLines`, `isListed` : the names that follow no rule, written one behind the other;
* `isNumbered` : names that end in the number of their character;
* `isSyllable` : names that spell a syllable;
* `isCharName` : the names that characters have.
-/

namespace SdkGraft

/-! ## Names in a list -/

/-- Names in ascending order. Small letters say how much of the name in front stays, and what stands
behind them follows. -/
@[irreducible] def nameLines : List String :=
  ["aABACUSbC CURRENTcCORDIONeUNT OFcKdNOWLEDGEcTIVATE ARABIC FORM SHAPINGjSYMMETRIC SWAPPING",
    "cUTE ACCENThNGLEbDDRESSED TO THE SUBJECTcHESIVE BANDAGEcI SHAKTIcLAM ALIF LENGTHENER",
    "gCAPITAL LETTER ALIFvBAwHEvCHIvDAALIwHAvEvFAvGAwBEvHAvIvJIIMvKAFwHAwPOvLAAMvMIIMvNHAwUNwYAvO",
    "vPEvQAAFvRAvSHAwINNYIIYHEvTUvUvVAvWAWvYAwHEvZALhONSONANT MODIFIERgDIGIT EIGHTmFIVEnOURmNINE",
    "mONEmSEVENnIXmTHREEnWOmZEROgGEMINATE CONSONANT MODIFIERnION MARKgHAMZA",
    "gINITIAL EXCLAMATION MARKoQUESTION MARKgNASALIZATION MARKhUKTAgSMALL LETTER ALIFtBAuHEtCHI",
    "tDAALIuHAtEtFAtGAuBEtHAtItJIIMtKAFuHAuPOtLAAMtMIIMtNHAuUNuYAtOtPEtQAAFtRAtSHAuINNYIIYHEtTUtU",
    "tVAtWAWtYAuHEtZALgVOWEL LENGTHENERcMETOSdISSION TICKETScULTbEGEAN CHECK MARK",
    "hDRY MEASURE FIRST SUBUNIThLIQUID MEASURE FIRST SUBUNIThMEASURE SECOND SUBUNITpTHIRD SUBUNIT",
    "hNUMBER EIGHTt HUNDREDuTHOUSANDtYu THOUSANDoFIFTYt THOUSANDqVEs HUNDREDtTHOUSANDpORTY",
    "t THOUSANDqURs HUNDREDtTHOUSANDoNINEs HUNDREDtTHOUSANDsTYu THOUSANDoONEr HUNDREDsTHOUSAND",
    "oSEVENt HUNDREDuTHOUSANDtTYv THOUSANDpIXr HUNDREDsTHOUSANDrTYt THOUSANDoTENr THOUSANDpHIRTY",
    "u THOUSANDqREEt HUNDREDuTHOUSANDpWENTYu THOUSANDqOr HUNDREDsTHOUSANDhWEIGHT BASE UNIT",
    "oFIRST SUBUNITpOURTH SUBUNIToSECOND SUBUNIToTHIRD SUBUNITiORD SEPARATOR DOTwLINE",
    "cRIAL TRAMWAYbFGHANI SIGNbHOM CONSONANT SIGN MEDIAL LAzdIGATING RAzcRAfDIGIT EIGHTlFIVEmOUR",
    "lNINElONElSEVENmIXlTHREEmWOlZEROfLETTER AnLTERNATE BAwGAwTAmBAnHAmCAnHAmDAnDAoHAnHAmGAnHAmHA",
    "mJAnHAmKAnHAmLAnLAmMAmNAnGAnNAnYAmPAnHAmRAmSAmTAnHAnTAoHAfNUMBER TENnWENTYfSIGN KILLERkRULAI",
    "kSECTIONlMALL SECTIONgYMBOL VIfVOWEL SIGN ArArIrMrWqEqIrIqOqUrUbIRPLANEi ARRIVINGjDEPARTURE",
    "bKTIESELSKABbLARM CLOCKcCHEMICAL SYMBOL FOR AIRxLEMBICyKALIzd-2yUMxMALGAMxNTIMONY ORE",
    "xQUA REGIAzh-2zcVITAEzh-2zbFORTISxRSENICxSHESxURIPIGMENTwBATH OF MARYzfVAPOURSxISMUTH ORE",
    "xLACK SULFURxORAXzc-2zd3xRICKwCADUCEUSyLXyPUT MORTUUMxINNABARxOPPER ANTIMONIATEzeORE",
    "xROCUS OF COPPERzn-2zhIRONyUCIBLEzf-2zg3zg4zg5wDAY-NIGHTxISSOLVEzf-2zTILLwEARTHwFIREwGOLDxUM",
    "wHALF DRAMzcOUNCExORSE DUNGyURwIRON OREzf-2zb-COPPER OREwLEAD ORExODESTONEwMARCASITE",
    "xERCURY SUBLIMATEzo-2zp3xONTHwNIGHTyTREwOILwPHILOSOPHERS SULFURxOT ASHESyWDERzdED BRICK",
    "xRECIPITATExURIFYyTREFACTIONwQUICK LIMEzNTESSENCEwREALGARze-2yGULUSze OF ANTIMONYzq-2ziIRON",
    "ze-2zf3zf4yTORTxOCK SALTzg-2wSAL-AMMONIACzTzb OF ANTIMONYzfCOPPER ANTIMONIATExCEPTER OF JOVE",
    "xILVERxOAPxPIRITxTARRED TRIDENTyRATUM SUPER STRATUMzs-2xUBLIMATE OF ANTIMONYzkCOPPER",
    "zkSALT OF ANTIMONYzsCOPPERzfIONyLFURwTARTARzd-2xIN OREzCTURExRIDENTxUTTYwURINEwVERDIGRIS",
    "xINEGARze OF ANTIMONYze-2zf3yTRIOLze-2wWATERyXcEF SYMBOLdMBICdRTcIEN MONSTER",
    "cL AROUND-PROFILEeEQUAL TOcMdOST EQUAL OR EQUAL TOnTOp WITH CIRCUMFLEX ACCENT",
    "cTERNATE ONE-WAY LEFT WAY TRAFFICiIVE KEY SYMBOLbMALGAMATION OR COPRODUCTcBULANCE",
    "cERICAN FOOTBALLcPERSANDdHORAbNATOLIAN HIEROGLYPH A001y2y3y4y5y6y7y8y9x10zAy1y2y3y4y5y6y7y8",
    "y9x20y1y2y3y4y5y6zAy7y8y9x30y1y2y3y4y5y6y7y8y9zAx40y1zAy2y3y4y5zAy6zAzBy7y8y9x50y1y2y3y4y5y6",
    "y7y8y9x60y1y2y3y4y5y6zAzBzCy7y8y9x70y1y2y3y4y5y6y7y8y9x80y1y2y3y4y5y6y7y8y9x90y1y2y3y4y5y6y7",
    "zAy8zAy9w100zAy1zAy2zAy3y4zAzBzCy5zAzBy6y7zAzBzCy8y9x10zAzBy1y2y3y4y5zAy6y7y8y9x20y1y2y3y4y5",
    "zAy6y7y8y9x30y1y2y3y4y5zAy6y7y8y9x40y1y2y3y4y5y6y7y8y9x50y1y2y3y4y5y6y7y8y9x60y1y2y3y4y5y6y7",
    "y8y9x70y1y2y3y4y5y6y7y8y9x80y1y2y3y4y5y6y7y8y9x90y1y2y3y4y5y6y7y8y9w200y1y2zAzBy3y4y5y6y7zA",
    "y8y9zAx10y1y2y3y4y5zAy6zAy7y8y9x20y1y2y3y4y5y6y7zAy8y9x30y1y2y3y4y5y6y7y8y9x40y1y2y3y4y5y6y7",
    "y8y9x50y1y2y3y4y5y6y7y8y9x60y1y2y3y4y5y6y7zAy8y9x70y1y2y3y4y5y6y7y8y9x80y1y2y3y4y5y6y7y8y9zA",
    "x90y1y2y3y4zAy5y6y7y8y9zAw300y1y2y3y4y5y6y7y8y9zAx10y1y2y3y4y5y6y7y8y9x20y1y2y3y4y5y6y7y8y9",
    "zAx30y1y2AzBzCy3y4y5y6zAzBzCy7y8y9x40y1y2y3y4y5y6y7y8y9x50y1y2y3y4y5y6y7y8y9zAx60y1y2y3y4zA",
    "y5y6y7y8zAy9x70y1zAy2y3y4y5y6y7y8y9x80y1zAy2y3 RA OR RIzAy4y5y6zAy7y8y9x90y1y2y3 EIGHTy4y5y6",
    "y7y8y9w400y1y2y3y4y5y6y7y8y9x10 BEGIN LOGOGRAM MARKzA END LOGOGRAM MARKy1y2y3y4y5y6y7y8y9x20",
    "y1y2y3y4y5y6y7y8y9x30y1y2y3y4y5y6y7y8y9x40y1y2y3y4y5y6y7y8y9x50zAy1y2y3y4y5y6y7zAy8y9x60y1y2",
    "y3y4y5y6y7y8y9x70y1y2y3y4y5y6y7y8y9x80y1y2y3y4y5y6y7y8y9x90y1y2y3y4y5y6y7w501y2y3y4y5y6y7y8",
    "y9x10y1y2y3y4y5y6y7y8y9x20y1y2y3y4y5y6y7y8y9x30fMICAL HEARTcCHORcD WITH DOTcGER SYMBOLdLE",
    "f WITH S INSIDElUNDERBARdRY FACEdSTROM SIGNdUISHED FACEcKHcTdENNA WITH BARS",
    "dICLOCKWISE CLOSED CIRCLE ARROWpONTOUR INTEGRALoDOWNWARDS AND UPWARDS OPEN CIRCLE ARROWS",
    "oGAPPED CIRCLE ARROWoINTEGRATIONoOPEN CIRCLE ARROWoTOP SEMICIRCLE ARROW",
    "pRIANGLE-HEADED BOTTOM U-SHAPED ARROWzfLEFT U-SHAPED ARROWzfOPEN CIRCLE ARROW",
    "zfRIGHT U-SHAPED ARROWzfTOP U-SHAPED ARROWbPCcL FUNCTIONAL SYMBOL ALPHAzc UNDERBAR",
    "wBACKSLASH BARwCIRCLE BACKSLASHzeDIAERESISzeJOTzeSTARzgILEzeUNDERBARxOMMA BARwDEL DIAERESIS",
    "zbSTILEzbTILDEzTA STILEzdUNDERBARxIAMOND UNDERBARxOWN CARET TILDEzcSHOE STILEzcTACK JOT",
    "zhUNDERBARzbWARDS VANEwEPSILON UNDERBARwGREATER-THAN DIAERESISwI-BEAMxOTAzb UNDERBAR",
    "wJOT DIAERESISzbUNDERBARwLEFT SHOE STILEzbWARDS VANEwOMEGAzc UNDERBARwQUADzb BACKSLASH",
    "zcCIRCLEzdOLONzcDELzfTAzdIAMONDzeVIDEzdOWN CARETzgWARDS ARROWzcEQUALzcGREATER-THANzcJOT",
    "zcLEFTWARDS ARROWzeSS-THANzcNOT EQUALzcQUESTIONzcRIGHTWARDS ARROWzcSLASHzcUP CARET",
    "zeWARDS ARROWyOTE QUADzdUNDERBARwRHOxIGHTWARDS VANEwSEMICOLON UNDERBARxLASH BARxQUISH QUAD",
    "xTAR DIAERESISyILE TILDEwTILDE DIAERESISwUP CARET TILDEzSHOE JOTzTACK DIAERESISzfJOT",
    "zfOVERBARyWARDS VANEwZILDEcOLLONdSTROPHEcPLICATION PROGRAM COMMANDdROACHES THE LIMIT",
    "fXIMATELY BUT NOT ACTUALLY EQUAL TOoEQUAL OR EQUAL TOuTOw OR THE IMAGE OFbQUARIUS",
    "bRABIC BASELINE ROUND DOThCOMMAiURLY DAMMAsTANnFATHAsTANnKASRAsTANhDAMMAm ISOLATED FORM",
    "nMEDIAL FORMnWITH DOTmTANp ISOLATED FORMjTE SEPARATORiECIMAL SEPARATORiISPUTED END OF AYAH",
    "iOUBLE RIGHT ARROWHEAD ABOVEzk WITH DOTnD MADDAhEMPTY CENTRE HIGH STOPuLOW STOPiND OF AYAH",
    "oTEXT MARKhFATHAm ISOLATED FORMnMEDIAL FORMnWITH DOT ABOVEsRINGsTWO DOTSmTANp ISOLATED FORM",
    "iIVE POINTED STARiOOTNOTE MARKERiULL STOPhHALF MADDA OVER MADDAjMZA ABOVEnBELOW",
    "hINVERTED DAMMAhKASRAm ISOLATED FORMnMEDIAL FORMnWITH DOT BELOWmTANp ISOLATED FORM",
    "hLARGE CIRCLE BELOWnROUND DOT ABOVExBELOWxINSIDE CIRCLE BELOWiEFT ARROWHEAD ABOVEwBELOW",
    "jTTER AEpFRICAN FEHwNOONwQAFz WITH THREE DOTS ABOVEpINr FINAL FORMsINITIAL FORMtSOLATED FORM",
    "sMEDIAL FORMsWITH THREE DOTS ABOVEzjBELOWzjPOINTING DOWNWARDS ABOVEyWO DOTS ABOVE",
    "zhVERTICALLY ABOVEpLEFs FINAL FORMtISOLATED FORMtMAKSURAzb FINAL FORMzcISOLATED FORMtWASLA",
    "y FINAL FORMzISOLATED FORMuITH ATTACHED BOTTOM RIGHT KASRAzzb AND DOT ABOVEzzgLEFT RING",
    "ziFATHAziKASRAziLEFT HAMZAznROUND DOTziRIGHT HAMZAzoROUND DOTzjOUND DOT ABOVEzsBELOW",
    "ziTOP RIGHT FATHAzx AND DOT ABOVEzzdLEFT RINGyDOT ABOVE",
    "yEXTENDED ARABIC-INDIC DIGIT THREE ABOVEzzdWO ABOVEyHAMZA ABOVEzk FINAL FORMzlISOLATED FORM",
    "zfBELOWzk FINAL FORMzlISOLATED FORMyLEFT MIDDLE STROKEyMADDA ABOVEzk FINAL FORM",
    "zlISOLATED FORMyRIGHT MIDDLE STROKEzs AND DOT ABOVEzxLEFT RINGyWAVY HAMZA ABOVEzkBELOWoBEEH",
    "s FINAL FORMtINITIAL FORMuSOLATED FORMtMEDIAL FORMqHr FINAL FORMsINITIAL FORMtSOLATED FORM",
    "sMEDIAL FORMsWITH DOT BELOW AND THREE DOTS ABOVExHAMZA ABOVExINVERTED SMALL V BELOW",
    "xSMALL MEEM ABOVEzeVzf BELOWxTHREE DOTS HORIZONTALLY BELOWzjPOINTING UPWARDS BELOW",
    "zzg AND TWO DOTS ABOVEyWO DOTS BELOW AND DOT ABOVErEHt FINAL FORMuINITIAL FORMvSOLATED FORM",
    "uMEDIAL FORMoDADr FINAL FORMsINITIAL FORMtSOLATED FORMsMEDIAL FORMsWITH DOT BELOWqHAL",
    "t FINAL FORMuISOLATED FORMqLr FINAL FORMsISOLATED FORMsWITH DOT BELOWzh AND SMALL TAH",
    "xFOUR DOTS ABOVExINVERTED SMALL V BELOWzhVxRINGxTHREE DOTS ABOVE DOWNWARDSzjBELOW",
    "yWO DOTS VERTICALLY BELOW AND SMALL TAHpDAHALu FINAL FORMvISOLATED FORMrLs FINAL FORM",
    "tISOLATED FORMpOTLESS BEHwFEHwQAFpULr FINAL FORMsISOLATED FORMpYEHs FINAL FORMtINITIAL FORM",
    "uSOLATED FORMtMEDIAL FORMoEp FINAL FORMqINITIAL FORMrSOLATED FORMqMEDIAL FORMoFARSI YEH",
    "x FINAL FORMyINITIAL FORMzSOLATED FORMyMEDIAL FORM",
    "yWITH EXTENDED ARABIC-INDIC DIGIT FOUR BELOWzzhTHREE ABOVEzziWO ABOVEzeINVERTED V",
    "zeTHREE DOTS ABOVEzfWO DOTS ABOVEpEHr FINAL FORMsINITIAL FORMtSOLATED FORMsMEDIAL FORM",
    "sWITH DOT BELOWzh AND THREE DOTS ABOVEzcMOVED BELOWxTHREE DOTS BELOWzjPOINTING UPWARDS BELOW",
    "yWO DOTS BELOWoGAFr FINAL FORMsINITIAL FORMtSOLATED FORMsMEDIAL FORMsWITH INVERTED STROKE",
    "xRINGxTHREE DOTS ABOVEyWO DOTS BELOWpHAINt FINAL FORMuINITIAL FORMvSOLATED FORMuMEDIAL FORM",
    "uWITH DOT BELOWzTHREE DOTS ABOVEpRAFpUEHs FINAL FORMtINITIAL FORMuSOLATED FORMtMEDIAL FORM",
    "oHAHr FINAL FORMsINITIAL FORMtSOLATED FORMsMEDIAL FORM",
    "sWITH EXTENDED ARABIC-INDIC DIGIT FOUR BELOWxHAMZA ABOVExINVERTED SMALL V BELOW",
    "xSMALL ARABIC LETTER TAH ABOVEzxND TWO DOTSzwBELOWxTHREE DOTS ABOVEzjPOINTING UPWARDS BELOW",
    "yWO DOTS ABOVEzhVERTICAL ABOVEqMZAt ISOLATED FORMpEHr DOACHASHMEEze FINAL FORMzfINITIAL FORM",
    "zgSOLATED FORMzfMEDIAL FORMsFINAL FORMsGOALw FINAL FORMxINITIAL FORMySOLATED FORM",
    "xMEDIAL FORMxWITH HAMZA ABOVEsINITIAL FORMtSOLATED FORMsMEDIAL FORMsWITH INVERTED V",
    "xYEH ABOVEzh FINAL FORMziISOLATED FORMpIGH HAMZAy ALEFzWAWzYEHoJEEMs FINAL FORMtINITIAL FORM",
    "uSOLATED FORMtMEDIAL FORMtWITH THREE DOTS ABOVEzkBELOWzWO DOTS ABOVEqHr FINAL FORM",
    "sISOLATED FORMoKAFr FINAL FORMsINITIAL FORMtSOLATED FORMsMEDIAL FORMsWITH DOT ABOVEzcBELOW",
    "xRINGxTHREE DOTS BELOWyWO DOTS ABOVEqSHMIRI YEHpEHEHt FINAL FORMuINITIAL FORMvSOLATED FORM",
    "uMEDIAL FORMuWITH DOT ABOVEzSMALL VzTHREE DOTS ABOVEzlBELOWzlPOINTING UPWARDS BELOW",
    "zbWO DOTS ABOVEzjVERTICALLY BELOWpHAHs FINAL FORMtINITIAL FORMuSOLATED FORMtMEDIAL FORM",
    "pIRGHIZ OEy FINAL FORMzISOLATED FORMwYUy FINAL FORMzISOLATED FORMoLAMr FINAL FORM",
    "sINITIAL FORMtSOLATED FORMsMEDIAL FORMsWITH BARxDOT ABOVEzUBLE BAR",
    "xSMALL ARABIC LETTER TAH ABOVEzeVxTHREE DOTS ABOVEzjBELOWpOW ALEFoMARKpEEMs FINAL FORM",
    "tINITIAL FORMuSOLATED FORMtMEDIAL FORMtWITH DOT ABOVEzdBELOWyTHREE DOTS ABOVEoNGq FINAL FORM",
    "rINITIAL FORMsSOLATED FORMrMEDIAL FORMqOEHt FINAL FORMuINITIAL FORMvSOLATED FORMuMEDIAL FORM",
    "pOONs FINAL FORMtGHUNNAz FINAL FORMzbISOLATED FORMtINITIAL FORMuSOLATED FORMtMEDIAL FORM",
    "tWITH DOT BELOWyINVERTED SMALL VyRINGySMALL TAHzfVyTHREE DOTS ABOVEzWO DOTS BELOWpYEH",
    "s FINAL FORMtINITIAL FORMuSOLATED FORMtMEDIAL FORMoOEq FINAL FORMrISOLATED FORMoPEH",
    "r FINAL FORMsINITIAL FORMtSOLATED FORMsMEDIAL FORMsWITH SMALL MEEM ABOVEzeVrEHt FINAL FORM",
    "uINITIAL FORMvSOLATED FORMuMEDIAL FORMoQAFr FINAL FORMsINITIAL FORMtSOLATED FORMsMEDIAL FORM",
    "sWITH DOT ABOVEzcBELOWzh AND NO DOTS ABOVExTHREE DOTS ABOVEoREHr FINAL FORMsISOLATED FORM",
    "sWITH DOT BELOWzh AND DOT ABOVExFOUR DOTS ABOVExHAMZA ABOVExINVERTED VxLOOPxRING",
    "xSMALL ARABIC LETTER TAH AND TWO DOTSzeNOON ABOVEzeVzf BELOWyTROKExTWO DOTS ABOVE",
    "zhVERTICALLY ABOVEpNOONt FINAL FORMuINITIAL FORMvSOLATED FORMuMEDIAL FORMpOHINGYA YEHpREH",
    "s FINAL FORMtISOLATED FORMoSADr FINAL FORMsINITIAL FORMtSOLATED FORMsMEDIAL FORM",
    "sWITH THREE DOTS ABOVEzjBELOWyWO DOTS BELOWpEENs FINAL FORMtINITIAL FORMuSOLATED FORM",
    "tMEDIAL FORMtWITH DOT BELOW AND DOT ABOVEyEXTENDED ARABIC-INDIC DIGIT FOUR ABOVE",
    "yFOUR DOTS ABOVEyINVERTED VySMALL ARABIC LETTER TAH AND TWO DOTSyTHREE DOTS BELOW",
    "zp AND THREE DOTS ABOVEzWO DOTS VERTICALLY ABOVEpHEENt FINAL FORMuINITIAL FORMvSOLATED FORM",
    "uMEDIAL FORMuWITH DOT BELOWpTRAIGHT WAWpUPERSCRIPT ALEFpWASH KAFoTAHr FINAL FORM",
    "sINITIAL FORMtSOLATED FORMsMEDIAL FORMsWITH DOT BELOWxTHREE DOTS ABOVEzjBELOWyWO DOTS ABOVE",
    "pCHEHt FINAL FORMuINITIAL FORMvSOLATED FORMuMEDIAL FORMuWITH DOT ABOVEzSMALL VtEH",
    "v FINAL FORMwINITIAL FORMxSOLATED FORMwMEDIAL FORMpEHr FINAL FORMsINITIAL FORMtSOLATED FORM",
    "sMARBUTAz FINAL FORMzbGOALzbISOLATED FORMtEDIAL FORMsWITH RINGxSMALL TEH ABOVEzeV",
    "xTHREE DOTS ABOVE DOWNWARDSrEHt FINAL FORMuINITIAL FORMvSOLATED FORMuMEDIAL FORMpHAL",
    "s FINAL FORMtISOLATED FORMqEHs FINAL FORMtINITIAL FORMuSOLATED FORMtMEDIAL FORMqIN YEHpTEH",
    "s FINAL FORMtINITIAL FORMuSOLATED FORMtMEDIAL FORMtWITH SMALL VsEHu FINAL FORMvINITIAL FORM",
    "wSOLATED FORMvMEDIAL FORMoUp FINAL FORMqISOLATED FORMqWITH HAMZA ABOVEzh ISOLATED FORM",
    "pIGHUR KAZAKH KIRGHIZ ALEF MAKSURA INITIAL FORMzyMEDIAL FORMoVEq FINAL FORMrISOLATED FORMqH",
    "r FINAL FORMsINITIAL FORMtSOLATED FORMsMEDIAL FORMoWAWr FINAL FORMsISOLATED FORM",
    "sWITH DOT ABOVEzcWITHINxEXTENDED ARABIC-INDIC DIGIT THREE ABOVEzzcWO ABOVExHAMZA ABOVE",
    "zj FINAL FORMzkISOLATED FORMxRINGxTWO DOTS ABOVEoYEHr BARREEy FINAL FORMzISOLATED FORM",
    "zWITH EXTENDED ARABIC-INDIC DIGIT THREE ABOVEzzjWO ABOVEzfHAMZA ABOVEzq FINAL FORM",
    "zrISOLATED FORMsFINAL FORMsINITIAL FORMtSOLATED FORMsMEDIAL FORMsWITH HAMZA ABOVE",
    "zj FINAL FORMzkINITIAL FORMzlSOLATED FORMzkMEDIAL FORMxSMALL VxTAILyHREE DOTS BELOW",
    "yWO DOTS BELOW AND DOT ABOVEzrHAMZA ABOVEzrSMALL NOON ABOVEpUq FINAL FORMrISOLATED FORMoZAH",
    "r FINAL FORMsINITIAL FORMtSOLATED FORMsMEDIAL FORMqINs FINAL FORMtISOLATED FORM",
    "tWITH INVERTED V ABOVEiIGATURE AIN WITH ALEF MAKSURA FINAL FORMznISOLATED FORM",
    "zJEEM INITIAL FORMzgSOLATED FORMzfWITH MEEM FINAL FORMzpINITIAL FORMzMEEM INITIAL FORM",
    "zgSOLATED FORMzfWITH ALEF MAKSURA FINAL FORMzkMEEM FINAL FORMzpINITIAL FORMzkYEH FINAL FORM",
    "zYEH FINAL FORMzeISOLATED FORMrKBAR ISOLATED FORMrLAYHAA AS-SALAAMvE ISOLATED FORM",
    "vI AS-SALAAMzgTU WAS-SALAAMwM AS-SALAAMxAA AS-SALAAM",
    "sEF MAKSURA WITH SUPERSCRIPT ALEF FINAL FORMzzbISOLATED FORMvWITH FATHATAN FINAL FORM",
    "zkISOLATED FORMsLAH ISOLATED FORMrZZA WA JALLqBEH WITH ALEF MAKSURA FINAL FORM",
    "znISOLATED FORMzHAH INITIAL FORMzfSOLATED FORMzeWITH YEH FINAL FORMzbEH INITIAL FORM",
    "zeMEDIAL FORMzJEEM INITIAL FORMzgSOLATED FORMzKHAH INITIAL FORMzgSOLATED FORM",
    "zfWITH YEH FINAL FORMzMEEM FINAL FORMzfINITIAL FORMzgSOLATED FORMzfMEDIAL FORM",
    "zNOON FINAL FORMzREH FINAL FORMzYEH FINAL FORMzeISOLATED FORMzZAIN FINAL FORM",
    "rISMILLAH AR-RAHMAN AR-RAHEEMqDAD WITH ALEF MAKSURA FINAL FORMznISOLATED FORM",
    "zHAH INITIAL FORMzfSOLATED FORMzeWITH ALEF MAKSURA FINAL FORMzjYEH FINAL FORM",
    "zJEEM INITIAL FORMzgSOLATED FORMzKHAH INITIAL FORMzgSOLATED FORMzfWITH MEEM FINAL FORM",
    "zpINITIAL FORMzMEEM INITIAL FORMzgSOLATED FORMzREH FINAL FORMzeISOLATED FORMzYEH FINAL FORM",
    "zeISOLATED FORMqFEH WITH ALEF MAKSURA FINAL FORMznISOLATED FORMzHAH INITIAL FORM",
    "zfSOLATED FORMzJEEM INITIAL FORMzgSOLATED FORMzKHAH INITIAL FORMzgSOLATED FORM",
    "zfWITH MEEM FINAL FORMzpINITIAL FORMzMEEM INITIAL FORMzgSOLATED FORMzfWITH YEH FINAL FORM",
    "zYEH FINAL FORMzeISOLATED FORMqGHAIN WITH ALEF MAKSURA FINAL FORMzpISOLATED FORM",
    "zcJEEM INITIAL FORMziSOLATED FORMzcMEEM INITIAL FORMziSOLATED FORM",
    "zhWITH ALEF MAKSURA FINAL FORMzmMEEM FINAL FORMzmYEH FINAL FORMzcYEH FINAL FORM",
    "zgISOLATED FORMqHAH WITH ALEF MAKSURA FINAL FORMznISOLATED FORMzJEEM INITIAL FORM",
    "zgSOLATED FORMzfWITH YEH FINAL FORMzMEEM INITIAL FORMzgSOLATED FORM",
    "zfWITH ALEF MAKSURA FINAL FORMzkYEH FINAL FORMzYEH FINAL FORMzeISOLATED FORM",
    "rEH WITH ALEF MAKSURA ISOLATED FORMzJEEM INITIAL FORMzgSOLATED FORMzMEEM INITIAL FORM",
    "zgSOLATED FORMzfWITH JEEM INITIAL FORMzkMEEM INITIAL FORMzSUPERSCRIPT ALEF INITIAL FORM",
    "zYEH ISOLATED FORMqJALLAJALALOUHOUrEEM WITH ALEF MAKSURA FINAL FORMzoISOLATED FORM",
    "zbHAH INITIAL FORMzgSOLATED FORMzfWITH ALEF MAKSURA FINAL FORMzkYEH FINAL FORM",
    "zbMEEM INITIAL FORMzhSOLATED FORMzgWITH ALEF MAKSURA FINAL FORMzlHAH FINAL FORM",
    "zpINITIAL FORMzlYEH FINAL FORMzbYEH FINAL FORMzfISOLATED FORMqKAF WITH ALEF FINAL FORM",
    "zfISOLATED FORMzfMAKSURA FINAL FORMznISOLATED FORMzHAH INITIAL FORMzfSOLATED FORM",
    "zJEEM INITIAL FORMzgSOLATED FORMzKHAH INITIAL FORMzgSOLATED FORMzLAM FINAL FORM",
    "zeINITIAL FORMzfSOLATED FORMzeMEDIAL FORMzMEEM FINAL FORMzfINITIAL FORMzgSOLATED FORM",
    "zfMEDIAL FORMzfWITH MEEM FINAL FORMzpINITIAL FORMzkYEH FINAL FORMzYEH FINAL FORM",
    "zeISOLATED FORMrHAH WITH ALEF MAKSURA FINAL FORMzoISOLATED FORMzbHAH ISOLATED FORM",
    "zbJEEM INITIAL FORMzhSOLATED FORMzbMEEM INITIAL FORMzhSOLATED FORMzbYEH FINAL FORM",
    "zfISOLATED FORMqLAM WITH ALEF FINAL FORMzfISOLATED FORMzfMAKSURA FINAL FORMznISOLATED FORM",
    "zfWITH HAMZA ABOVE FINAL FORMzwISOLATED FORMzqBELOW FINAL FORMzwISOLATED FORM",
    "zkMADDA ABOVE FINAL FORMzwISOLATED FORMzHAH INITIAL FORMzfSOLATED FORM",
    "zeWITH ALEF MAKSURA FINAL FORMzjMEEM FINAL FORMzoINITIAL FORMzjYEH FINAL FORM",
    "zbEH INITIAL FORMzJEEM INITIAL FORMzgSOLATED FORMzfWITH JEEM FINAL FORMzpINITIAL FORM",
    "zkMEEM FINAL FORMzpINITIAL FORMzkYEH FINAL FORMzKHAH INITIAL FORMzgSOLATED FORM",
    "zfWITH MEEM FINAL FORMzpINITIAL FORMzMEEM FINAL FORMzfINITIAL FORMzgSOLATED FORM",
    "zfMEDIAL FORMzfWITH HAH FINAL FORMzoINITIAL FORMzkYEH FINAL FORMzYEH FINAL FORM",
    "zeISOLATED FORMqMEEM WITH ALEF FINAL FORMzgMAKSURA ISOLATED FORMzbHAH INITIAL FORM",
    "zgSOLATED FORMzfWITH JEEM INITIAL FORMzkMEEM INITIAL FORMzkYEH FINAL FORMzbJEEM INITIAL FORM",
    "zhSOLATED FORMzgWITH HAH INITIAL FORMzlKHAH INITIAL FORMzlMEEM INITIAL FORMzlYEH FINAL FORM",
    "zbKHAH INITIAL FORMzhSOLATED FORMzgWITH JEEM INITIAL FORMzlMEEM INITIAL FORMzlYEH FINAL FORM",
    "zbMEEM FINAL FORMzgINITIAL FORMzhSOLATED FORMzgWITH YEH FINAL FORMzbYEH ISOLATED FORM",
    "rOHAMMAD ISOLATED FORMqNOON WITH ALEF MAKSURA FINAL FORMzoISOLATED FORMzbHAH INITIAL FORM",
    "zgSOLATED FORMzfWITH ALEF MAKSURA FINAL FORMzkMEEM INITIAL FORMzkYEH FINAL FORM",
    "zcEH INITIAL FORMzfMEDIAL FORMzbJEEM INITIAL FORMzhSOLATED FORM",
    "zgWITH ALEF MAKSURA FINAL FORMzlHAH FINAL FORMzpINITIAL FORMzlMEEM FINAL FORMzqINITIAL FORM",
    "zlYEH FINAL FORMzbKHAH INITIAL FORMzhSOLATED FORMzbMEEM FINAL FORMzgINITIAL FORM",
    "zhSOLATED FORMzgMEDIAL FORMzgWITH ALEF MAKSURA FINAL FORMzlYEH FINAL FORMzbNOON FINAL FORM",
    "zbREH FINAL FORMzbYEH FINAL FORMzfISOLATED FORMzbZAIN FINAL FORM",
    "qQAF WITH ALEF MAKSURA FINAL FORMznISOLATED FORMzHAH INITIAL FORMzfSOLATED FORM",
    "zMEEM INITIAL FORMzgSOLATED FORMzfWITH HAH FINAL FORMzoINITIAL FORMzkMEEM FINAL FORM",
    "zkYEH FINAL FORMzYEH FINAL FORMzeISOLATED FORMsLA USED AS KORANIC STOP SIGN ISOLATED FORM",
    "rUDDISA SIRRAHqRADI ALLAAHU ANHzhAAzhUMzjAAziNNAsHIMAHU ALLAAHyM ALLAAHsSOUL ISOLATED FORM",
    "rEH WITH SUPERSCRIPT ALEF ISOLATED FORMqSAD WITH ALEF MAKSURA FINAL FORMznISOLATED FORM",
    "zHAH INITIAL FORMzfSOLATED FORMzeWITH HAH FINAL FORMznINITIAL FORMzjYEH FINAL FORM",
    "zKHAH INITIAL FORMzMEEM INITIAL FORMzgSOLATED FORMzfWITH MEEM FINAL FORMzpINITIAL FORM",
    "zREH FINAL FORMzeISOLATED FORMzYEH FINAL FORMzeISOLATED FORMsLAAMUHU ALAYNAAuM ISOLATED FORM",
    "tLA ISOLATED FORMwUSED AS KORANIC STOP SIGN ISOLATED FORMvLLAAHU ALAYHI WA-AALIH",
    "yHOU ALAYHE WASALLAMzU ALAYHI WAAALIHEE WA-SALLAMrEEN WITH ALEF MAKSURA FINAL FORM",
    "zoISOLATED FORMzbHAH INITIAL FORMzgSOLATED FORMzfMEDIAL FORMzfWITH JEEM INITIAL FORM",
    "zcEH INITIAL FORMzfMEDIAL FORMzbJEEM INITIAL FORMzhSOLATED FORMzgMEDIAL FORM",
    "zgWITH ALEF MAKSURA FINAL FORMzlHAH INITIAL FORMzbKHAH INITIAL FORMzhSOLATED FORM",
    "zgMEDIAL FORMzgWITH ALEF MAKSURA FINAL FORMzlYEH FINAL FORMzbMEEM INITIAL FORMzhSOLATED FORM",
    "zgMEDIAL FORMzgWITH HAH FINAL FORMzpINITIAL FORMzlJEEM INITIAL FORMzlMEEM FINAL FORM",
    "zqINITIAL FORMzbREH FINAL FORMzfISOLATED FORMzbYEH FINAL FORMzfISOLATED FORM",
    "rHADDA WITH DAMMA ISOLATED FORMzjMEDIAL FORMziTAN ISOLATED FORMzdFATHA ISOLATED FORM",
    "zjMEDIAL FORMzdKASRA ISOLATED FORMzjMEDIAL FORMziTAN ISOLATED FORM",
    "zdSUPERSCRIPT ALEF ISOLATED FORMsEEN WITH ALEF MAKSURA FINAL FORMzpISOLATED FORM",
    "zcHAH FINAL FORMzgINITIAL FORMzhSOLATED FORMzgMEDIAL FORMzgWITH MEEM FINAL FORM",
    "zqINITIAL FORMzlYEH FINAL FORMzdEH INITIAL FORMzgMEDIAL FORMzcJEEM FINAL FORMzhINITIAL FORM",
    "ziSOLATED FORMzhMEDIAL FORMzhWITH YEH FINAL FORMzcKHAH FINAL FORMzhINITIAL FORM",
    "ziSOLATED FORMzhMEDIAL FORMzcMEEM FINAL FORMzhINITIAL FORMziSOLATED FORMzhMEDIAL FORM",
    "zhWITH KHAH FINAL FORMzrINITIAL FORMzmMEEM FINAL FORMzrINITIAL FORMzcREH FINAL FORM",
    "zgISOLATED FORMzcYEH FINAL FORMzgISOLATED FORMrUBHAANAHU WA TAAALAAqTABAARAKA WA-TAAALAA",
    "sH WITH ALEF MAKSURA FINAL FORMznISOLATED FORMzHAH INITIAL FORMzfSOLATED FORM",
    "zMEEM INITIAL FORMzgSOLATED FORMzfMEDIAL FORMzfWITH HAH FINAL FORMzoINITIAL FORM",
    "zkMEEM INITIAL FORMzkYEH FINAL FORMzYEH FINAL FORMzeISOLATED FORM",
    "rEH WITH ALEF MAKSURA FINAL FORMznISOLATED FORMzHAH INITIAL FORMzfSOLATED FORM",
    "zeWITH JEEM FINAL FORMzoINITIAL FORMzjMEEM INITIAL FORMzbEH INITIAL FORMzeMEDIAL FORM",
    "zJEEM INITIAL FORMzgSOLATED FORMzfWITH ALEF MAKSURA FINAL FORMzkMEEM INITIAL FORM",
    "zkYEH FINAL FORMzKHAH INITIAL FORMzgSOLATED FORMzfWITH ALEF MAKSURA FINAL FORM",
    "zkMEEM INITIAL FORMzkYEH FINAL FORMzMEEM FINAL FORMzfINITIAL FORMzgSOLATED FORMzfMEDIAL FORM",
    "zfWITH ALEF MAKSURA FINAL FORMzkHAH INITIAL FORMzkJEEM INITIAL FORMzkKHAH INITIAL FORM",
    "zkYEH FINAL FORMzNOON FINAL FORMzREH FINAL FORMzYEH FINAL FORMzeISOLATED FORM",
    "zZAIN FINAL FORMrHAL WITH SUPERSCRIPT ALEF ISOLATED FORMsEH WITH ALEF MAKSURA FINAL FORM",
    "zoISOLATED FORMzbHEH MEDIAL FORMzbJEEM ISOLATED FORMzbMEEM FINAL FORMzgINITIAL FORM",
    "zhSOLATED FORMzgMEDIAL FORMzbNOON FINAL FORMzbREH FINAL FORMzbYEH FINAL FORMzfISOLATED FORM",
    "zbZAIN FINAL FORMqUIGHUR KIRGHIZ YEH WITH HAMZA ABOVE WITH ALEF MAKSURA FINAL FORM",
    "zzuINITIAL FORMzzvSOLATED FORMqWASALLAM ISOLATED FORMqYEH WITH ALEF MAKSURA FINAL FORM",
    "znISOLATED FORMzHAH INITIAL FORMzfSOLATED FORMzeWITH YEH FINAL FORM",
    "zcMZA ABOVE WITH AE FINAL FORMzuISOLATED FORMzsLEF FINAL FORMzwISOLATED FORM",
    "zwMAKSURA FINAL FORMzzfISOLATED FORMzrE FINAL FORMztINITIAL FORMzuSOLATED FORM",
    "zrHAH INITIAL FORMzwSOLATED FORMzsEH INITIAL FORMzvMEDIAL FORMzrJEEM INITIAL FORM",
    "zxSOLATED FORMzrKHAH INITIAL FORMzrMEEM FINAL FORMzwINITIAL FORMzxSOLATED FORMzwMEDIAL FORM",
    "zrNOON FINAL FORMzrOE FINAL FORMzuISOLATED FORMzrREH FINAL FORMzrU FINAL FORMztISOLATED FORM",
    "zrWAW FINAL FORMzvISOLATED FORMzrYEH FINAL FORMzvISOLATED FORMzsU FINAL FORMzuISOLATED FORM",
    "zrZAIN FINAL FORMzbEH INITIAL FORMzeMEDIAL FORMzJEEM INITIAL FORMzgSOLATED FORM",
    "zfWITH YEH FINAL FORMzKHAH INITIAL FORMzgSOLATED FORMzMEEM FINAL FORMzfINITIAL FORM",
    "zgSOLATED FORMzfMEDIAL FORMzfWITH MEEM FINAL FORMzpINITIAL FORMzkYEH FINAL FORM",
    "zNOON FINAL FORMzREH FINAL FORMzYEH FINAL FORMzeISOLATED FORMzZAIN FINAL FORM",
    "qZAH WITH MEEM INITIAL FORMzgSOLATED FORMzfMEDIAL FORMhMADDA WAAJIBmH ABOVEjRK NOON GHUNNA",
    "mSIDEWAYS NOON GHUNNAjTHEMATICAL AINvLEFuBEHuDADwLvOTLESS BEHzdFEHzdNOONzdQAF",
    "wUBLE-STRUCK AINzjBEHzjDADzlLzjFEHzjGHAINzjHAHzjJEEMzjKHAHzjLAMzjMEEMzjNOONzjQAFzjREHzjSAD",
    "zkEENzkHEENzjTAHzkEHzkHALzlEHzjWAWzjYEHzjZAHzlINuFEHuGHAINuHAHuINITIAL AINzdBEHzdDADzdFEH",
    "zdGHAINzdHAHzeEHzdJEEMzdKAFzeHAHzdLAMzdMEEMzdNOONzdQAFzdSADzeEENzeHEENzdTEHzeHEHzdYEHuJEEM",
    "uKAFvHAHuLAMvOOPED AINzdLEFzcBEHzcDADzeLzcFEHzcGHAINzcHAHzdEHzcJEEMzcKHAHzcLAMzcMEEMzcNOON",
    "zcQAFzcREHzcSADzdEENzdHEENzcTAHzdEHzdHALzeEHzcWAWzcYEHzcZAHzeINuMEEMuNOON",
    "uOPERATOR HAH WITH DALzeMEEM WITH HAH WITH TATWEELuQAFuREHuSADvEENvHEENvTRETCHED AINzfBEH",
    "zfDADzgOTLESS BEHznFEHzfFEHzfGHAINzfHAHzgEHzfJEEMzfKAFzgHAHzfMEEMzfNOONzfQAFzfSADzgEENzgHEEN",
    "zfTAHzgEHzgHEHzfYEHzfZAHuTAHwILED AINzcDADzdOTLESS NOONzkQAFzcGHAINzcHAHzcJEEMzcKHAHzcLAM",
    "zcNOONzcQAFzcSADzdEENzdHEENzcYEHvEHvHALwEHuWAWuYEHuZAHwINhNUMBER MARK ABOVEoSIGN",
    "hOPEN DAMMATANmFATHATANmKASRATANhPERCENT SIGNiIASTRE MARK ABOVEiLACE OF SAJDAH",
    "iOETIC VERSE SIGNjUND MARK ABOVEhQUESTION MARKhRAISED ROUND DOTjYiEVERSED DAMMA",
    "iIGHT ARROWHEAD ABOVEzd WITH DOTxBELOWiOUNDED HIGH STOP WITH FILLED CENTREhSEMICOLONiHADDA",
    "n ISOLATED FORMoMEDIAL FORMiIGN ALAYHE ASSALLAMmMISRAmRADI ALLAHOU ANHUoHMATULLAH ALAYHE",
    "mSAFHAoLLALLAHOU ALAYHE WASSALLAMoMVAToNAHnINDHI AMPERSANDtPOSTPOSITION MENmTAKHALLUS",
    "iMALL DAMMAnFARSI YEHpTHAnHIGH AINsDOTLESS HEAD OF KHAHsFARSI YEHtOOTNOTE MARKERsJEEM",
    "sLAM ALEFtIGATURE ALEF WITH LAM WITH YEHzcQAF WITH LAM WITH ALEF MAKSURA",
    "zcSAD WITH LAM WITH ALEF MAKSURAsMADDAtEEM INITIAL FORMySOLATED FORMsNOONw WITH KASRAsQAF",
    "sROUNDED ZEROsSADtEENtIGN SAFHAsTAHtHREE DOTSsUPRIGHT RECTANGULAR ZEROsWAWtORD AL-JUZyN-NISF",
    "yR-RUByS-SAJDAyTH-THALATHAxQIFxSAHzKTAxWAQFAsYEHv BARREE WITH TWO DOTS BELOWsZAHuINnKASRA",
    "nLOW MEEMrNOON WITH KASRArSEENrWAWsORD IMAALAxSHMAAMwTASHEELnWAWnYEHiTART OF RUB EL HIZB",
    "iUBSCRIPT ALEFjKUNm BELOWnISOLATED FORMnMEDIAL FORMjPERSCRIPT ALEF MOKHASSASiYMBOL DOT ABOVE",
    "sBELOWqUBLE VERTICAL BAR BELOWoFOUR DOTS ABOVEyBELOWoRINGoSMALL TAH ABOVEyBELOW",
    "oTHREE DOTS ABOVEzBELOWzPOINTING DOWNWARDS ABOVEztBELOWpWO DOTS ABOVExBELOWxVERTICALLY ABOVE",
    "zjBELOWoWASLA ABOVEhTAIL FRAGMENTjTWEELo WITH FATHATAN ABOVEuOVERSTRUCK HAMZAzgWAW",
    "uTWO DOTS BELOWiHOUSANDS SEPARATORiONE LOOP ABOVErBELOWmONE DOT ABOVEuBELOWmTWO DOTS ABOVE",
    "vBELOWiRIPLE DOT PUNCTUATION MARKiURNED DAMMA BELOWhVERTICAL TAILiOWEL SIGN DOT BELOW",
    "sINVERTED SMALL V ABOVEsSMALL V ABOVEhWAVY HAMZA BELOWhZWARAKAYg-INDIC CUBE ROOTnDIGIT EIGHT",
    "tFIVEuOURtNINEtONEtSEVENuIXtTHREEuWOtZEROnFOURTH ROOTnPER MILLE SIGNrTEN THOUSAND SIGNcCcIES",
    "cMENIAN ABBREVIATION MARKkPOSTROPHEjCAPITAL LETTER AYByBENyCAzHAzbEHzOyDAyECHzHzTyFEHyGHAD",
    "zIMyHOyINIyJAzHEHyKEHzbNyLIWNyMENyNOWyOHyPEHzIWRyRAzEHySEHzHAyTIWNzOyVEWzOyXEHyYIzbWNyZAzHE",
    "kOMMAjDRAM SIGNjEMPHASIS MARKkXCLAMATION MARKjFULL STOPjHYPHEN",
    "jMODIFIER LETTER LEFT HALF RINGjQUESTION MARKjSMALL LETTER AYBwBENwCAxHAyEHxOwDAwECHxHxTwFEH",
    "wGHADxIMwHOwINIwJAxHEHwKEHyNwLIWNwMENwNOWwOHwPEHxIWRwRAxEHwSEHxHAwTIWNxOxURNED AYBwVEWxOwXEH",
    "wYIy WITH STROKEyWNwZAxHEqIGATURE ECH YIWNyMEN ECHzdINIzdNOWzdXEHyVEW NOW",
    "cROW POINTING DOWNWARDS THEN CURVING LEFTWARDSznRIGHTWARDSpRIGHTWARDS THEN CURVING DOWNWARDS",
    "zoSOUTH WESTzoUPWARDSpUPWARDS THEN NORTH WESTfHEAD-SHAPED POINTERcTICULATED LORRYeST PALETTE",
    "bSCENDING NODEdIA SYMBOLcSERTIONcTERISKi OPERATORhMdONISHED FACEdRAEA",
    "eONOMICAL SYMBOL FOR URANUScYMPTOTICALLY EQUAL TObTHLETIC SHOEcOM SYMBOLbUBERGINEcSTRAL SIGN",
    "cTO RICKSHAWeMATED TELLER MACHINEfOBILEbVESTAN ABBREVIATION MARKiLETTER AqArNrOqErEqNqOpBE",
    "qHEpCEpDEqHEpEqEpFEpGEqGEqHEpHEqMEpIqIpJEpKEpLEpMEpNEqGErVErYEqNEqYEpOqOpPEpREpSEqHErYEqSHE",
    "pTEqHEqTEpUqUpVEpXEqVEqYEpYEqYEpZEqHEcOCADObXEaBABYe ANGELfBOTTLEfCHICKfSYMBOL",
    "cCK OF ENVELOPEfWITH LEFTWARDS ARROW ABOVEe-TILTED SHADOWED WHITE RIGHTWARDS ARROW",
    "eSLANTED SOUTH ARROW WITH HOOKED TAILzgRIZONTAL TAILfPACEdONdTRIAN CAMELcDGER",
    "dMINTON RACQUET AND SHUTTLECOCKcGELdGAGE CLAIMdUETTE BREADcLINESE ADEG ADEGjCARIK PAMUNGKAH",
    "rRERENpSIKIjDIGIT EIGHTpFIVEqOURpNINEpONEpSEVENqIXpTHREEqWOpZEROjLETTER AIKARArKARAv TEDUNG",
    "rRCHAIC JNYArSYURA SASAKqBAs KEMBANGqCAs LACAqDAs MADUuURDA ALPAPRANAzMAHAPRANAqEF SASAK",
    "rKARAqGAs GORAqHAqIKARAv TEDUNGqJAs JERAqKAs MAHAPRANAsF SASAKrHOT SASAKqLAs LENGAy TEDUNG",
    "qMAqNAs RAMBATrGArYAqOKARAv TEDUNGqPAs KAPALqRAs REPAx TEDUNGqSAs SAGAvPAqTAs LATIK",
    "tMURDA MAHAPRANAtTAWArZIR SASAKqUKARAv TEDUNGqVE SASAKqWAqYAqZAL SASAK",
    "jMUSICAL SYMBOL COMBINING BENDEzjENDEPzjGONGzjJEGOGANzjKEMPLIzp WITH JEGOGANznUL",
    "zp WITH JEGOGANzjTEGEHyDAENGzbINGzbNGzd GEDEzeSURANGzENGzbUNGzINGzONGzUNG",
    "yLEFT-HAND CLOSED PLAKzsUKzjOPEN PANGzpINGzpUNGyRIGHT-HAND CLOSED TAKzsUKzkOPEN DAGzqUG",
    "jPAMADAp LANTANGmENENGlNTIo LANTANGjSIGN BISAHoCECEKoREREKANoSURANGoULU CANDRAsRICEM",
    "jVOWEL SIGN LA LENGAzd TEDUNGuPEPETz TEDUNGuRA REPAzc TEDUNGuSUKUy ILUTuTALINGzb REPA",
    "zg TEDUNGzcTEDUNGvEDUNGuULUx SARIjWINDUdL OF YARNeET SHOESeOONh-SPOKED ASTERISK",
    "fT BOLD SCRIPT XjXk WITH BALLOTrOLD CHECKvSCRIPT XqCHECKqLIGHT XqSCRIPT XqXhSCRIPT XhX",
    "cMUM COLONiMBINING MARK KOQNDONvTUKWENTISjMAgFULL STOPgLETTER AnEEnFAAMAEoEEoOMoUnInKAoENpT",
    "pUXoIoOpGHOMpVUUoPAoUoYEEnLAoEEEEoIoOQoUnMoAoBAApENoEEEEpNoIoOoUnNAoDAAoGApGApKWAENoIoJAEM",
    "pEEpUAEoSHAoTEEpUUoUpAEoYInOnPAoEEpUXoHASE-A FIRIvGBIEE FONwHEUAEGHEUAEzcRAEvKAFAxQwET",
    "xUKEUTNDAwPOQwUOQvLAPAQwET KUTwOMMAEwUxAEPvMAEKEUPyMzBGBIEEzKPENzVEUXyNYIySIxNSUAExP PIEET",
    "wBANYIyQwEUNJOMNDEUQwGBASAwON NGGEUAETxOMEUTzPUQwVEUAENGAMvNAA MFONxQwDA LEERAEWAyANGGEUAET",
    "wENwGANGUxGENxKUE MFONzbNZEUMwIKAwJAMwKAARAExINDIwSHAyIEEwTAPz MFAAzbNTAAxOQPENwYETxI",
    "yT MONGKEUAEQwZA MFONxUN MEUTvPA LEERAEWAxAMyRAExMSHAExSHAEwETwON MFON PIPAEMBAzlGBIEE",
    "zPA NJI PIPAEMBAznGBIEEwUPvROMvSEUNYAMwHINDA PA NJIyRAExOQ NSHUT YUMxUENSHUETyMwISAwONJAMxQ",
    "xTwUUvTEUAENyTEUWENwITA MFONwU MAEMBAxAEPvU YUQ NAEwNKNOWNvVEEtB FEExUXvGHEUGHENzdUAEMvKAM",
    "wEUAEMyPUQyYEUXwIEEMxQvLAANAExM NSHUT NYAMwETwOM NTEUMvMAx NJEUAENAzbUQAwBA MAELEEyARAExEURI",
    "xIT MBAAKETxUOQwEUQyT NGGEETwFIYAQxON TEUAEQwONTIEENvNDU NJAAwGGAAMyEU MBUyUOQzc LARGE",
    "xKINDI MVOPxOMwSENxHUETwTIEE SHEUOQwYAEMAExI NTEUMvPARUMwEESHIwITwUNGAAMvSAKEUAEwET TU",
    "wHET NJAQyUAEQTUwIEEwUEvTAAMwU MAEMGBIEEyNSIEEvVEUMvWUAETvYAFU LEERAEWAwEURAEtC BUNGvFUE",
    "vGBAYIwHAPyRAEvKAAwEN FATIGUEzLAWxTxUKAQyMySEUXzHEUAEPwPARAQwUOP NKAARAExTvLAMxPwIQwU",
    "vMA KEUAERIyNSIEExEMBAySIwBAA CABBAGE-TREEzbPICKETyNYIxEEKEETyRAEyUMzXxIyRIEENyTxUAEMyE",
    "wGBASAQwIEEwUAEvNANSANAQxQwDAMyPxEUAEREEzTxIDAxOMBUwGAQxGENyUzAEN NYAMzEETzMzONxKAQ",
    "yUE MAEMBAxOMwJAEMyMxEEEEyUXxUEQwSAxEUAENxHAQxOMxUNyOT NGOMwTAAxENyUNGBAxU MBIT",
    "wYIR MKPARAQ MEUNwZAxEUMvPENwINxRIEENvRUvSETFONxUXwHIQxUEQwUAETvTAASHAEwETxUTEUXwITA YUE",
    "yUAEPvVEUAEPENyXvWANGKUOQwUPvYAAwEUQwU MUOMAExMxWOQtD FAAwEUFEUAETvGHAAxEUAEvKETxUAETMEUNyM",
    "yOT MBUAEyPwUxNxOMxQwWAETwYEEvLEEEExTxUAEPyMwIEEwOQwUMvMwAENJETxLEERIwBAAz SEVENxUOwEEEExUN",
    "yTwFEUAEzTxIEExOyNwGBEUNyIEEyOFUMwONIwUwVOPvNDAMxEEyUXxONwGGAAMzcAEzPyEUXyUOMyWAENxKAPyEUAEQ",
    "zbRIyIEEyUNyYEEwIwJAPxEUAEMzTxIyEExUEQwSHEEyUTxIEEPzbTxUMwTEEyUMxUUwUwYAMxETxIxUEvPAPwEE",
    "xUTAEwIPwUQxUTvRAEMwEN MUCHzOLDwIIvSAPxQwEUAEQwHEEyUAEzXxIIxOQxUwOTwUAExExUvTAEwEEEExUAENyN",
    "yTwIwOQwUxOTvWAPwUAENvYAEMMAEwENwUOMyPxWOQtE AvFAxQwEEwOMwU CALLyIyREMEDYxEyTvGBETyUXwHAAMAE",
    "xETyUAEzNzXxOMvIvKETxUAEyXwIwOwPEUXwUETxOPxTvLAAMxPxQwEUAEMwOMxONyTxQwUvMAxEyMxPxQwBEEyUMwEN",
    "wFEUQwGBAyENwIxEEwONwUAEwVIvNAxEwDAA MY HOUSEzbSOFTNESSyPxIAQyQxUNwGAxEUREUTxGEEEEzUAEzdT",
    "yUAESHAE NYAMzPzRAExKAzAMIyEUAEMzbXyUMzPxOPyQxUAEzbTwJAEMLIxEEz EPOCHyUXwKOMwSHIEEyUEzOPwTAP",
    "xUMwYI BETWEENzCLEAVERwZAQxUQvOvPA PEOPLEzLURALxAyMwEEMxUTyXwIxEEQyTwOxONwUxAEyQxExMvRAExQ",
    "wEUXwIMGBAvSAAwEExTwHEUAEQxIQxOyQwOMwUAENvTAAyQxEN NTEUMxMxQwENxUyAEQwOOyNxQwUAExMyAEvVEE",
    "xUAEwOMvWEUXwUExOvYAPwEUAEzbTyMyXwIEExTwOQ COVERzSWIMMINGwUAENxEQxNxQtF EEvFOMvKAwENxTwOwPA",
    "wUwYEEvLAwIwOQvMwAwBAAxENwEEEEwOvNDAAwGGAxKWAENwIwJAEMxUAEwSHAwTEEwUxAEwYIvPEExUXwUAEvREExN",
    "xUXwIEExIwUvSAMBAwEUXwHIIxOxUwIwUUvTAAxEwETvUvVUEQvWAwUEvYAwOQoIoUAEpEnRAEoEEpNpUXoIEEpIoU",
    "nSAMBAoEUXoHEUXpIIpOpUoIoUUnTAApEoENpToInUnWAoUEnYAoOQoUQgNJAEMLIgQUESTION MARKgSEMICOLON",
    "cNANAdJOdKeNOTE WITH DOLLAR SIGNoEURO SIGNoPOUND SIGNoYEN SIGNcR CHARTeOF SOAPdBER POLE",
    "cSEBALLdKETgBALL AND HOOPdSA VAH COMBINING HIGH TONEy-LOW TONEuLOW TONEx-MID TONEuMID TONE",
    "kFULL STOPkLETTER ArBArCErDHIIsOrEsEsNNIrFArGAHsBUrHWAHrIrJOrKAsPAHrMBErOsOrPArSErTOrUsWUrVU",
    "rWAtDDArYEINsIErZOcTdAK CONSONANT SIGN HvNGgLETTER AnBAnCAnDAnGAnHAnInJAnKARO BAnLAnMA",
    "pNDAILING HAyNAySAoBAnNAoDAoGAoORTHERN TAoYAnPApKPAK WAnRAnSAoIMALUNGUN AyGAyHAyLAyMAyPAyRA",
    "ySAyWAyYAoOUTHERN TAnUnWAnYAgPANGOLATjONGONANgSIGN TOMPIhYMBOL BINDU JUDULtNA METEKtPANGOLAT",
    "uINARBORASgVOWEL SIGN EsErIrKARO IwOrOrPAKPAK ErUs FOR SIMALUNGUN SAdHeTUBdTERY",
    "bEACH WITH UMBRELLAdMED ASCENDING MUSICAL NOTEShDESCENDING MUSICAL NOTEShEIGHTH NOTES",
    "hSIXTEENTH NOTESdNSdR FACEeDED PERSONdTING HEARTdVERcCAUSEcDcER MUGdTLEcLdLe PEPPERfSYMBOL",
    "fWITH CANCELLATION STROKEeHOP BELLcNGALI ABBREVIATION SIGNjNJIjU LENGTH MARK",
    "iCURRENCY DENOMINATOR SIXTEENrNUMERATOR FOURzcONEzf LESS THAN THE DENOMINATORzcTHREEzdWO",
    "iDIGIT EIGHToFIVEpOURoNINEoONEoSEVENpIXoTHREEpWOoZEROiGANDA MARKiISSHARiLETTER AqAqIqUpBAqHA",
    "pCAqHApDAqDArHAqHApEpGAqHApHApIqIpJAqHApKAqHAsNDA TApLApMApNAqGAqNAqYApOpPAqHApRA",
    "r WITH LOWER DIAGONALxMIDDLE DIAGONALqHAqRApSAqHAqSApTAqHAqTArHApUqUpVEDIC ANUSVARAqOCALIC L",
    "yLxRyRpYAqYAiRUPEE MARKoSIGNiSANDHI MARKjIGN ANUSVARAoVAGRAHAnCANDRABINDUnNUKTAnVIRAMApSARGA",
    "iVOWEL SIGN AAuIuUtEtIuItOtUuUtVOCALIC LzdLzcRzdRdT ARROW POINTING DOWNWARDS THEN NORTH EAST",
    "eO BOXdZENE RINGm WITH CIRCLEcT SYMBOLdWEENcVERAGE BOXbHAIKSUKI DANDAlIGIT EIGHTqFIVErOUR",
    "qNINEqONEqSEVENrIXqTHREErWOqZEROlOUBLE DANDAkGAP FILLER-1v2kHUNDREDS UNIT MARKkLETTER AsAsI",
    "sUrBAsHArCAsHArDAsDAtHAsHArErGAsHArHArIsIrJAsHArKAsHArLArMArNAsGAsNAsYArOrPAsHArRArSAsHAsSA",
    "rTAsHAsTAtHArUsUrVAsOCALIC LzRzbRrYAkNUMBER EIGHTwYrFIFTYtVEsORTYtURrNINEvTYrONErSEVENwTYsIX",
    "uTYrTENsHIRTYtREEsWENTYtOkSIGN ANUSVARAqVAGRAHApCANDRABINDUpVIRAMArSARGAkVOWEL SIGN AAwIwUvE",
    "vIwIvOvUwUvVOCALIC LzeRzfRkWORD SEPARATORbICYCLEgISTcG REVERSE SOLIDUSeSOLIDUScKINIcLLED CAP",
    "eIARDScOHAZARD SIGNcRDdTHDAY CAKEcSONcTCOIN SIGNdING LIPbLACK BOWTIEgCENTRE WHITE STAR",
    "hHESS BISHOPs ROTATED NINETY DEGREESzcTWO HUNDRED SEVENTY DEGREESmEQUIHOPPER",
    "w ROTATED NINETY DEGREESmKINGq ROTATED NINETY DEGREESzTWO HUNDRED SEVENTY DEGREESnNIGHT",
    "s ROTATED FORTY-FIVE DEGREESzcNINETY DEGREESzcONE HUNDRED THIRTY-FIVE DEGREES",
    "zcTHREE HUNDRED FIFTEEN DEGREESzdWO HUNDRED SEVENTY DEGREESzoTWENTY-FIVE DEGREESs-BISHOP",
    "tQUEENtROOKmPAWNq ROTATED NINETY DEGREESzTWO HUNDRED SEVENTY DEGREESmQUEEN",
    "r ROTATED NINETY DEGREESzbTWO HUNDRED SEVENTY DEGREESmROOKq ROTATED NINETY DEGREES",
    "zTWO HUNDRED SEVENTY DEGREESmTURNED BISHOPtKINGuNIGHTtPAWNtQUEENtROOKhIRCLEm FOR RECORD",
    "nWITH DOWN ARROWsTWO WHITE DOTSsWHITE DOT RIGHThLUB SUIThROSS ON SHIELD",
    "hURVED DOWNWARDS AND LEFTWARDS ARROWzcRIGHTWARDS ARROWnLEFTWARDS AND DOWNWARDS ARROW",
    "zcUPWARDS ARROWnRIGHTWARDS AND DOWNWARDS ARROWzdUPWARDS ARROWnUPWARDS AND LEFTWARDS ARROW",
    "zRIGHTWARDS ARROWgDIAMONDn CENTREDoMINUS WHITE XoON CROSSoSUIToWITH DOWN ARROW",
    "hOWN POINTING BACKHAND INDEXk-POINTING DOUBLE TRIANGLEuISOSCELES RIGHT TRIANGLE",
    "uSMALL TRIANGLEuTRIANGLEkWARDS EQUILATERAL ARROWHEADhRAUGHTS KINGpMANiOPLETgFLAGiORETTE",
    "hOLDERiUR POINTED STARgHARD SHELL FLOPPY DISKhEARTl SUITiXAGONhORIZONTAL ELLIPSEiURGLASS",
    "gLARGE CIRCLEmSQUAREhEFT LANE MERGElPOINTING BACKHAND INDEXuINDEXk-POINTING DOUBLE TRIANGLE",
    "zk WITH VERTICAL BARuISOSCELES RIGHT TRIANGLEuPOINTERuSMALL TRIANGLEuTRIANGLEkWARDS BULLET",
    "qEQUILATERAL ARROWHEADhOWER LEFT TRIANGLEmRIGHT TRIANGLEiZENGEgMEDIUM DIAMOND",
    "oOWN-POINTING TRIANGLEzk CENTREDnLEFT-POINTING TRIANGLEzk CENTREDoOZENGE",
    "nRIGHT-POINTING TRIANGLEzl CENTREDnSMALL DIAMONDtLOZENGEtSQUAREoQUAREnUP-POINTING TRIANGLE",
    "zi CENTREDhOON LILITHgNIBgOCTAGONgPARALLELOGRAMhENNANTjTAGONhUSHPINgQUESTION MARK ORNAMENT",
    "gRECTANGLEhIGHT POINTING BACKHAND INDEXvINDEXl-POINTING DOUBLE TRIANGLEzl WITH VERTICAL BAR",
    "vISOSCELES RIGHT TRIANGLEvPENTAGONwOINTERvSMALL TRIANGLEvTRIANGLEze WITH DOUBLE VERTICAL BAR",
    "lWARDS ARROWwHEADrBULLETrEQUILATERAL ARROWHEADhOSETTEgSAFETY SCISSORShCISSORShHOGI PIECE",
    "hKULL AND CROSSBONEShLIGHTLY SMALL CIRCLEvSQUAREhMALL DIAMONDmLOZENGEmSQUAREnTARiILING FACE",
    "hNOWMANhPADE SUIThQUAREm BUTTONnCENTREDnFOR STOPhTARhUN WITH RAYSgTELEPHONEhINY DIAMOND",
    "lLOZENGElSQUAREhOUCHTONE TELEPHONEhRUCKhWO-WAY LEFT WAY TRAFFICgUNIVERSAL RECYCLING SYMBOL",
    "hP POINTING BACKHAND INDEXi-POINTING DOUBLE TRIANGLEsISOSCELES RIGHT TRIANGLEsSMALL TRIANGLE",
    "sTRIANGLEiPER LEFT TRIANGLEmRIGHT TRIANGLEiWARDS EQUILATERAL ARROWHEADgVERTICAL ELLIPSE",
    "pRECTANGLEjY SMALL DIAMONDrLOZENGErSQUAREf-FEATHERED NORTH EAST ARROWqRIGHTWARDS ARROW",
    "qSOUTH EAST ARROWgLETTER CAPITAL CvHvIvRvZdNK SYMBOLcOCK SEXTANT-1p2q3r4s5s6r5s6r6q4r5s6r6q5",
    "r6q6p3q4r5s6r6q56q6p4q5r6q6p5q6p6o2p3q4r5s6r6q5r6q6p4q5r6p5q6p6o3p4q5r6q6p5q6p6o4p5q6p6o5p6",
    "o6dSSOMdWFISHcUE BOOKfHEARTeBERRIESbOARcLD EIGHT SPOKED ASTERISKfFIVE SPOKED ASTERISK",
    "fGREEK CROSSfSALTIREgIX SPOKED ASTERISKfWHITE CIRCLElSQUAREcMdBcNEcOKeMARKi TABSeSdMERANG",
    "cPOMOFO FINAL LETTER GwHwKwPwTjLETTER ArHrIsNNrMrNsGsNrUsNNqBrUqCrHqDqErErHrIrNsGsNrRqFqGrH",
    "rNrUrWqHqIrHrMrNNtNrRrUqJrIqKrWqLrHqMqNrGsGrNqOr WITH DOT ABOVErErMrNGsNrOrUqPqQqRqSrHqTqU",
    "rNNqVqXqZrHrIrYcTTLE WITH POPPING CORKeOM ARC ANTICLOCKWISE ARROWhCURLY BRACKET",
    "hHALF BLACK CIRCLEmINTEGRALmLEFT PARENTHESISmRIGHT PARENTHESIShLEFT CORNERnROPmHALF BRACKET",
    "hPARENTHESIShRIGHT CORNERoROPnHALF BRACKEThSQUARE BRACKETv OVER TOP SQUARE BRACKET",
    "hTORTOISE SHELL BRACKETcUQUETh OF FLOWERScW AND ARROWdL OF HYGIEIAfWITH SPOONeINGdTIE",
    "g WITH LEFT HALF BLACKmRIGHT HALF BLACKcX DRAWINGS DOUBLE DOWN AND HORIZONTALzeLEFTzeRIGHT",
    "uHORIZONTALuUP AND HORIZONTALzcLEFTzcRIGHTuVERTICALzd AND HORIZONTALziLEFTziRIGHT",
    "pWN DOUBLE AND HORIZONTAL SINGLEzeLEFT SINGLEzeRIGHT SINGLEsHEAVY AND HORIZONTAL LIGHT",
    "zdLEFT LIGHTziUP LIGHTzdRIGHT LIGHTzjUP LIGHTzdUP HORIZONTAL LIGHT",
    "sLIGHT AND HORIZONTAL HEAVYzdLEFT HEAVYziUP HEAVYzdRIGHT HEAVYzjUP HEAVY",
    "zdUP HORIZONTAL HEAVYsSINGLE AND HORIZONTAL DOUBLEzeLEFT DOUBLEzeRIGHT DOUBLE",
    "nHEAVY DOUBLE DASH HORIZONTALzgVERTICALvWNx AND HORIZONTALzdLEFTzdRIGHTtHORIZONTALtLEFT",
    "x AND LIGHT RIGHTtQUADRUPLE DASH HORIZONTALzjVERTICALtRIGHTtTRIPLE DASH HORIZONTALzgVERTICAL",
    "tUPv AND HORIZONTALzbLEFTzcIGHT DOWNzbRIGHTtVERTICALzc AND HORIZONTALzhLEFTzhRIGHT",
    "nLEFT DOWN HEAVY AND RIGHT UP LIGHTsHEAVY AND RIGHT DOWN LIGHTzjUP LIGHTzjVERTICAL LIGHT",
    "sLIGHT AND RIGHT DOWN HEAVYzjUP HEAVYzjVERTICAL HEAVYsUP HEAVY AND RIGHT DOWN LIGHT",
    "oIGHT ARC DOWN AND LEFTzhRIGHTxUP AND LEFTzfRIGHTtDIAGONAL CROSSzdDIAMOND",
    "zdMIDDLE LEFT TO LOWER CENTREzzf TO MIDDLE RIGHTzsUPPER CENTRE TO MIDDLE RIGHT",
    "zzv TO LOWER CENTREzkRIGHT TO LOWER CENTREztUPPER CENTRE TO MIDDLE LEFT TO LOWER CENTRE",
    "zdUPPER CENTRE TO MIDDLE LEFTzzf AND MIDDLE RIGHT TO LOWER CENTREzzgTO LOWER CENTRE",
    "zzv TO MIDDLE RIGHTzzbRIGHTzzg AND MIDDLE LEFT TO LOWER CENTREzzhTO LOWER CENTRE",
    "zzw TO MIDDLE LEFTzjLEFT TO LOWER RIGHTzjRIGHT TO LOWER LEFTuOUBLE DASH HORIZONTALzgVERTICAL",
    "vWNx AND HORIZONTALzdLEFTzdRIGHTtHORIZONTALze WITH VERTICAL STROKEtLEFTx AND HEAVY RIGHT",
    "tQUADRUPLE DASH HORIZONTALzjVERTICALtRIGHTtTRIPLE DASH HORIZONTALzgVERTICALtUP",
    "v AND HEAVY DOWNzcORIZONTALzbLEFTzbRIGHTtVERTICALzc AND HORIZONTALzhLEFTzhRIGHT",
    "nRIGHT DOWN HEAVY AND LEFT UP LIGHTtHEAVY AND LEFT DOWN LIGHTzjUP LIGHTzjVERTICAL LIGHT",
    "tLIGHT AND LEFT DOWN HEAVYzjUP HEAVYzjVERTICAL HEAVYtUP HEAVY AND LEFT DOWN LIGHT",
    "nUP DOUBLE AND HORIZONTAL SINGLEzcLEFT SINGLEzcRIGHT SINGLEqHEAVY AND DOWN HORIZONTAL LIGHT",
    "zbHORIZONTAL LIGHTzbLEFT DOWN LIGHTzgLIGHTzbRIGHT DOWN LIGHTzhLIGHT",
    "qLIGHT AND DOWN HORIZONTAL HEAVYzbHORIZONTAL HEAVYzbLEFT DOWN HEAVYzgHEAVYzbRIGHT DOWN HEAVY",
    "zhHEAVYqSINGLE AND HORIZONTAL DOUBLEzcLEFT DOUBLEzcRIGHT DOUBLE",
    "nVERTICAL DOUBLE AND HORIZONTAL SINGLEziLEFT SINGLEziRIGHT SINGLEwHEAVY AND HORIZONTAL LIGHT",
    "zhLEFT LIGHTzhRIGHT LIGHTwLIGHT AND HORIZONTAL HEAVYzhLEFT HEAVYzhRIGHT HEAVY",
    "wSINGLE AND HORIZONTAL DOUBLEziLEFT DOUBLEziRIGHT DOUBLEdING GLOVEcYdS SYMBOLbPHbRAHMI DANDA",
    "iIGIT EIGHTnFIVEoOURnNINEnONEnSEVENoIXnTHREEoWOnZEROiOUBLE DANDAhLETTER ApApIpUoBApHAoCApHA",
    "oDApDAqHApHAoEoGApHAoHAoIpIoJApHAoKApHAoLApLAoMAoNApGApNApYAoOpLD TAMIL LLAzbLAyNNNAyRRA",
    "ySHORT EzfOoPApHAoRAoSApHApSAoTApHApTAqHAoUpUoVApOCALIC LxLwRxRoYAhNUMBER EIGHTtYoFIFTYqVE",
    "pORTYqURoJOINERoNINEsTYoONEr HUNDREDsTHOUSANDoSEVENtTYpIXrTYoTENpHIRTYqREEpWENTYqO",
    "hPUNCTUATION CRESCENT BARtDOTvUBLE DOTtLINEuOTUShSIGN ANUSVARAmCANDRABINDUmJIHVAMULIYA",
    "mOLD TAMIL VIRAMAmUPADHMANIYAmVISARGAhVIRAMAiOWEL SIGN AAtItUsBHATTIPROLU AAsEsItIsO",
    "tLD TAMIL SHORT EzjOsUtUsVOCALIC LzcLzbRzcRdILLE PATTERN BLANKqDOTS-1w2x3y4z5zb6zc7zd8zc8zb7",
    "zc8zb8z6zb7zc8zb8z7zb8z8y5z6zb7zc8zb8z7zb8z8y6z7zb8z8y7z8y8x4y5z6zb7zc8zb8z7zb8z8y6z7zb8z8y7",
    "z8y8x5y6z7zb8z8y7z8y8x6y7z8y8x7y8x8w3x4y5z6zb7zc8zb8z7zb8z8y6z7zb8z8y7z8y8x5y6z7zb8z8y7z8y8",
    "x6y7z8y8x7y8x8w4x5y6z7zb8z8y7z8y8x6y7z8y8x7y8x8w5x6y7z8y8x7y8x8w6x7y8x8w7x8w8v2w3x4y5z6zb7",
    "zc8zb8z7zb8z8y6z7zb8z8y7z8y8x5y6z7zb8z8y7z8y8x6y7z8y8x7y8x8w4x5y6z7zb8z8y7z8y8x6y7z8y8x7y8x8",
    "w5x6y7z8y8x7y8x8w6x7y8x8w7x8w8v3w4x5y6z7zb8z8y7z8y8x6y7z8y8x7y8x8w5x6y7z8y8x7y8x8w6x7y8x8w7",
    "x8w8v4w5x6y7z8y8x7y8x8w6x7y8x8w7x8w8v5w6x7y8x8w7x8w8v6w7x8w8v7w8v8eNcEADeK PERMITTED HERE",
    "eST-FEEDINGdVEcICKdDE WITH VEILeGE AT NIGHTdEFCASEfScOCCOLIdKEN BAR",
    "hCIRCLE WITH NORTHWEST ARROWhHEARTdOMdWN HEARTbSbUBBLE TEAgScCKETcGdINESE END OF SECTION",
    "jLETTER AqBAqCAqDAqGAqHAqJAqKAqLAqMArPAqNArGAsKArRArYAsCAqPAqRAqSAqTAqVAqYAjPALLAWA",
    "jVOWEL SIGN AEuEuIuOuUcHID LETTER AnBAnDAnGAnHAnInKAnLAnMAnNAoGAnPAnRAnSAnTAnUnWAnYA",
    "gVOWEL SIGN IrUcILDING CONSTRUCTIONcLLETg OPERATOReHORNi WITH SOUND WAVESeSEYEcRRITOcSd STOP",
    "dT IN SILHOUETTEeS IN SILHOUETTEcTTERgFLYbYTE ORDER MARKcZANTINE MUSICAL SYMBOL AGOGI ARGI",
    "zjOTERIzgGORGIzkOTERIzgMESIziTRIAzgPOLI ARGIzlGORGIzbNATRICHISMAzcTIKENOKYLISMAziMA",
    "zbPESO EKFONITIKONzhXO NEOzcLIzcODERMA ARCHAIONzjNEOzdSTROFOI SYNDESMOS NEO",
    "zlTELOUS ICHIMATOSzjSzk DIPLIzlNEOzdTHEMAzbRGONzeSYNTHETONzcKTIKO DIziGAziKEziNIziPAziVOU",
    "ziZOzCHAMILIzgONzcOREVMA ARCHAIONzjNEOzcROA KLITONzgSPATHIzgZYGOSzDASEIAzbIARGON",
    "zdSTOLI APLI MEGALIzpIKRIzjDIPLIzjTHESEOSzcESIS APLI DYO DODEKATAzhDIGRAMMOS EX DODEKATA",
    "zhMONOGRAMMOS TESSERA DODEKATAzhTETARTIMORIONziRIGRAMMOS OKTO DODEKATAzkTIMORIONzcFTOGGOS OU",
    "zcGORGONzi PARESTIGMENON ARISTERA ANOzzhKATOzxDEXIAzdRAMMA GGzcPLIzf ARCHAIONzbYOzEKSTREPTON",
    "zbLAFRONzbNARXIS KAI FTHORA VOUzcDOFONONzbPEGERMAzbTERON ARGOSYNTHETONzhPARAKALESMA",
    "zbXO EKFONITIKONzFANEROSIS DIFONIASzkMONOFONIASzkTETRAFONIASzbHTORA SKLIRON CHROMA VASIS",
    "zbTHORA ARCHAIONzp DEYTEROU ICHOUzhDIATONIKI DIzrKEzrNANAzsI ANOzuKATOzrPAzrZO",
    "zhENARMONIOS ANTIFONIAzhI YFESIS TETARTIMORIONzhMALAKON CHROMA DIFONIASzwMONOFONIAS",
    "zhNAOS ICHOSziENANOzhSKLIRON CHROMA SYNAFIzwVASISzpDIATONON DIzGENIKI DIESISzhYFESIS",
    "zbORGON ARCHAIONzhNEO ANOzlKATOzhPARESTIGMENON ARISTERAzvDEXIAzfSYNTHETONzdTHMIKON N APLOUN",
    "znDIPLOUNzbRONTHISMATAzICHADINzbMIDIARGONzdFONONzeTHORAziONzbSAKIA TELOUS ICHIMATOS",
    "zcON ARCHAIONzfNEOzKATAVA TROMIKONzgSMAzdHISTIzbENTIMA ARCHAIONziNEO ANOzmKATOzmMESOzhTA",
    "zj ARCHAIONzkNEO ANOzoKATOzoMESOzbLASMAzg ANOzhKATOzbONTEVMAzi ALLOzcRONISzcUFISMA",
    "zbRATIMA ALLOzjRCHAIONziNEOzhTAzgOKOUFISMAzhYPORROONzcEMASTIzbYLISMAzLEIMMA DYO CHRONON",
    "zhENOS CHRONOUzhIMISEOS CHRONOUzhTESSARON CHRONONziRION CHRONONzcMOIzbYGISMA",
    "zMARTYRIA ALLI DEYTEROS ICHOSzoPROTOS ICHOSzjDEYTEROS ICHOSzjLEGETOS ICHOSzjPLAGIOS ICHOS",
    "zrTETARTOS ICHOSzkROTOS ICHOSzoVARYS ICHOSzjTETARTOS ICHOSzsLEGETOS ICHOSzkRIFONIAS",
    "zmTOS ICHOSzjVARYS ICHOSzbIKRON ISONzNANAzOLIGON ARCHAIONzhNEOzbMALONzbXEIA DIPLI",
    "zgEKFONITIKONzgNEOzfI ARCHAIONzbYRANISMA ARCHAIONzkNEOzPARAKALESMA ARCHAIONzmNEOzfLITIKI",
    "zl ARCHAIONzmNEOzdICHONzbELASTONzi NEOzcRISPOMENIzcTASMAzfTIzgOKOUFISMAzbIASMA ARCHAIONzhNEO",
    "zbSIFISTOLYGISMAziNzj NEOziPARAKALESMAziSYNAGMAzdLIzeONzRAPISMAzbEVMAzSAXIMATAzbEISMAzg NEO",
    "zbIMANSIS ARSEOSzp DISIMOUzqTETRASIMOUzrRISIMOUzjTHESEOSzq DISIMOUzrTETRASIMOUzsRISIMOU",
    "zbTAVROSzh APODEXIAzcIGMAzcRAGGISMATAzbYNAGMA ARCHAIONziMETA STAVROUziNEOzdEVMAzcRMAzfTIKI",
    "zTELEIAzcSSERAzcTRAPLIzbHEMAzf APLOUNzfTISMOS ESOznXOzdS KAI APOTHESzcITAzbINAGMAzbRIA",
    "zdGORGONzdPLIzcOMIKOLYGISMAzhN ALLOzkRCHAIONzjNEOzhPARAKALESMAziSIFISTONzhSYNAGMA",
    "zVAREIA DIPLIzhEKFONITIKONzhNEOzgI ARCHAIONzcTHYzXIRON KLASMAzYFEN ANOzfKATO",
    "zdSIS APLI DYO DODEKATAzhDIGRAMMOS EX DODEKATAzhMONOGRAMMOS TESSERA DODEKATA",
    "zhTRIGRAMMOS OKTO DODEKATAzkTIMORIONzbPOKRISISzj DIPLIzdRROIzcSILIaCACTUScDA UNAdUCEUS",
    "cLENDARdL ME HANDcMERAg WITH FLASHdPINGcNdADIAN SYLLABICS AuAvIvYuIvVILIK BuNuTHAPASCAN MzfS",
    "uYtBEAVER DENE LzgRuIBLE-CREE YuLACKFOOT AzeEzeIzeKAzfEzfIzfOzeNAzfEzfIzfOzeOzeSzeWzfAzfEzfI",
    "zfOtCuAvAwIvRRIER CHAzeEzfEzeIzeOzeUzcDEEzeNE GEEzfTAL SzdIzdLAzeEzfEzeIzeOzeUzdZAzeEzfEzeI",
    "zeOzeUzcEEzcGAzeAzdEzeEzdHAzeEzfEzeIzeOzeUzdIzdOzdUzdWAzeUzcHzdEEzdIzdWAzeEzfEzeIzeOzeUzcI",
    "zdNITIAL ZzcJAzdEzeEzdIzdJAzeEzfEzeIzeOzeUzdOzdUzdWAzcKHAzeEzfEzeIzeOzeUzdKzeAzeEzfEzeIzeO",
    "zeUzcLAzdEzeEzdHAzeEzfEzeIzeOzeUzdIzdOzdUzcMAzdEzeEzdIzdOzdUzcNAzdEzeEzdGzdIzdOzdUzcPzdAzdE",
    "zeEzdIzdOzdUzcRAzdEzeEzdIzdOzdUzcSAzdEzeEzdHzeAzeEzfEzeIzeOzeUzdIzdOzdUzcTHAzeEzfEzeIzeOzeU",
    "zdLAzeEzfEzeHAzfEzgEzfIzfOzfUzeIzeOzeUzdSAzeEzfEzeIzeOzeUzdTAzeEzfEzeIzeOzeSAzfEzgEzfIzfOzfU",
    "zeUzcWAzdEzeEzdIzdOzdUzcYAzdEzeEzdIzdOzdUzcZzdAzdEzeEzdIzdOzdUuEuHI SIGNuIvIuOvOuWAwAvEvIwI",
    "vOwOtEuASTERN WuNtFuAvAwIuEuIvIvNAL ACUTEzBOTTOM HALF RINGzDOUBLE ACUTE",
    "zhSHORT VERTICAL STROKESzcWN TACKzGRAVEzMIDDLE DOTzPLUSzRAISED DOTzbIGHT HALF RINGzcNG",
    "zSHORT HORIZONTAL STROKEzbMALL RINGzTOP HALF RINGuOvOuULL STOPuWAAtGLOTTAL STOPtHKuYPHENtIuI",
    "uNtKuAvAwIvYuEuIvIuOvOuWvAwAwYvEvIwIvOwOtLuAvAwIvYuEuHvAwAvIwIvOwOuIvIuOvOuWAwAvEvIwIvOwOtM",
    "uAvAwIvYuEvDIAL LzbRuHuIvIuOvOwSE-CREE SKuWAwAvEvIwIvOwOtNu-CREE THEzdIzeIuAvAwIvSKAPI CWAA",
    "zcKWAAzcMWAAzcNWAAzcS-WzdCWAzdKWzfAzdPWAzdTWAzdWAAzcTWAAzcWAAzdOOzcYWAAvTTILIK HAzfAzeIzfI",
    "zeOzfOzdSHRAzhAzgIzhIzgOzhOvYuEuGvAwAxIwIvIwIvOwOuHuIvIuNGwAxAwIxIwOxOuOvOvYuUNAVIK HzdAzeA",
    "zdEzdIzeIzdOzeOyUT HuWAwAvEvIwIvOwOtOuJIBWAY CzcKzcMzcNzdWIzfIzeOzfOzcPzcSzdHzcTuNuOuYtPuAvA",
    "wIvYuEuIvIuOvOvYuWAwAvEvIwIvOwOwYtQuAvAwIvIuIvIuOvOtRu-CREE REzcWEuAvAwIvYuEuIvIuOvOuWAwAvEE",
    "vIwIvOwOtSuAvAwIvYwISI HAzcEzcIzcOzdOzbJIzcUzdUzbMzbSHAzdEzdIzdOzeOzdWEzbTHzbYIuEuHvAwAwYvE",
    "vIwIvOwOwYvWAxAwEwIxIwOxOxYuIvIuOvOvUTH-SLAVEY KAHziEHziIHziOHvYuPAvEvIvOuWvAwAvEvIwIvOwOtT",
    "uAvAwIvYuEuHv-CREE THzeAzfAzeEzeIzfIzeOzfOvAwAvEvIwIvOwOvWAxAwEuIvIuLHAwEwIwOxOwWEuOvOuTAvE",
    "vHwAxAwEwIwOxOwWEvIvOuWAwAvEvIwIvOwOuYAvEvIvOtWAvAvYuEvST-CREE CWAzhAzgEzgIzhIzgOzhOzeFWAA",
    "zeKWAzhAzgEzgIzhIzgOzhOzeLzfAzgAzfEzfOzgOzfWAzhAzgEzgIzhIzgOzhOzeMzfWAzhAzgEzgIzhIzgOzhO",
    "zeNWAzhAzgEzePzfWAzhAzgEzgIzhIzgOzhOzeRzfAzfEzfIzfOzfWAAzeSHWAziAzhEzhIziIzhOziOzfWAzhAzgE",
    "zgIzhIzgOzhOzeTHWAAzfWAzhAzgEzgIzhIzgOzhOzeWAzgAzfEzfIzgIzfOzgOzeYzfWAzhAzgEzgIzhIzgOzhO",
    "xERN WuIvIuOvOwDS-CREE FINAL THzfTHzhAzhEzhIzhOzhWAzjAziEEziIzjIziOzjOtYu-CREE COOzbKOOzbLOO",
    "zbMOOzbNOOzbOOzbPOOzcWAAzbSOOzbTOOzbWzbYOOuAvAwIvYuEuIvIuOvOvYuWAwAvEvIwIvOwOdCELg CHARACTER",
    "hTAGgLATION XfRdDLEeYdNED FOODdOEcPITULUMdRICORNcR SLIDINGdD FILE BOXfINDEXk DIVIDERSdE OFeT",
    "f INSERTION POINTdIAN LETTER Ap2oBoC-18q39oDp2oEp2oGp2oIpIoKp2oLpDq2oMpBq2q3q4oNpDpGpNoOoPp2",
    "oQoRpRoSpHq2pSpTq2oTpTq2oUpUqUr2r3rUoXdONeUSEL HORSEdP STREAMEReENTRY SAWdRIAGE RETURNeOT",
    "cSTLEcTd FACEi WITH TEARS OF JOYoWRY SMILEcUCASIAN ALBANIAN CITATION MARKtLETTER ALTzcOR",
    "zbBETzbCARzdYNzcHAzeTzdIzdOYzcYAWzeYzbDATzcYANzcZAYzdYAYzbEBzcYNzbFAMzbGHEYSzcIMzbHEYTzbINYA",
    "zcRBzcWNzbJAYNzcHOXzbKARzcIWzbLANzcYITzbMAQzbNOWCzbONzbPENzcIWRzbQARzdYzbRATzbSEYKzcHAzeK",
    "zdOYzbTASzcIWRzcYAYzbVEYZzbXEYNzbYAYDzcOWDzbZARLzcHAzdILdTION SIGNbCHbEDI SIGNeLLA",
    "cLTIC CROSScNT SIGNeRE LINE SYMBOLgLINE LOW LINElOVERLINEcRESbGJbHAINSeRdKMA AU MARKhDANDA",
    "iIGIT EIGHTnFIVEoOURnNINEnONEnSEVENoIXnTHREEoWOnZEROiOUBLE DANDAhLETTER AAoBAApHAAoCAApHAA",
    "oDAApDAAqHAApHAAoEoGAApHAAoHAAoIoJAApHAAoKAApHAAoLAApHAAoMAAoNAApGAApNAApYAAoPAApHAAoRAAoSAA",
    "oTAApHAApTAAqHAAoUoVAAoWAAoYAApYAAhMAAYYAAhO MARKhQUESTION MARKhSECTION MARKiIGN ANUSVARA",
    "mCANDRABINDUmVISARGAhVIRAMAiOWEL SIGN AtAtItUsEtIsItIsOtIsUtUdM CONSONANT SIGN FINAL HzbM",
    "zbNGuLAuRAuWAuYAfDIGIT EIGHTlFIVEmOURlNINElONElSEVENmIXlTHREEmWOlZEROfLETTER AnImBAnBAnHA",
    "mCHAoHAmDAnDAnHAmEmFINAL CHsGsKsLsNtGsPsRsSSsTsYmGAnHAmHAmImJAnHAmKAnHAmLAmMAnUEmNAnGAoUEnHA",
    "oJAoUEnUEmOmPAnHAnPAmRAmSAnSAmTAnHAmUmVAmYAfPUNCTUATION DANDAsOUBLE DANDArSPIRAL",
    "rTRIPLE DANDAfVOWEL SIGN AArIrUqEIqIrIqOrEqUrEdRACTER TABULATIONu SETvWITH JUSTIFICATIONlIE",
    "eT WITH DOWNWARDS TRENDlUPWARDS TRENDy AND YEN SIGNcECK MARKfER BOARDn FILLdERING MEGAPHONE",
    "eSE WEDGEdQUERED FLAGdROKEE LETTER AqDArErIrLArOrUrVqEqGArErIrOrUrVqHArErIrNArOrUrVqIqKAqLA",
    "rErIrOrUrVqMArErIrOrUrVqNAsHrErIrOrUrVqOqQUAsEsIsOsUsVqSrArErIrOrUrVqTArErIrLAsEsIsOsUsVrSA",
    "sEsIsOsUsVqUqVqWArErIrOrUrVqYArErIrOrUrVjSMALL LETTER AwDAxExIxLAxOxUxVwEwGAxExIxOxUxVwHAxE",
    "xIxNAxOxUxVwIwKAwLAxExIxOxUxVwMAxExIxOxUxVwNAyHxExIxOxUxVwOwQUAyEyIyOyUyVwSxAxExIxOxUxVwTAxE",
    "xIxLAyEyIyOyUyVxSAyEyIyOyUyVwUwVwWAxExIxOxUxVwYAxExIxOxUxVeRIESfY BLOSSOMdSTNUTcI RHOdCKEN",
    "dLDfREN CROSSINGdPMUNKdRONcOCOLATE BARdPSTICKSdRASMIAN LETTER ALEPHtYINsBETHsCURLED WAW",
    "sDALETHsGIMELsHEuTHsKAPHsLAMEDHsMEMsNUNsPEsRESHsSAMEKHtHINtMALL ALEPHsTAWsWAWsYODHsZAYIN",
    "lNUMBER FOURsONEv HUNDREDsTENtHREEtWENTYuOcRISTMAS TREEcURCHbINEMA",
    "cRCLE DIVIDED BY HORIZONTAL BAR AND TOP HALF DIVIDED BY VERTICAL BAR",
    "hWITH ALL BUT UPPER LEFT QUADRANT BLACKmHORIZONTAL BARmLEFT HALF BLACKnOWER HALF BLACK",
    "mRIGHT HALF BLACKmSMALL CIRCLE TO THE RIGHTnUPERIMPOSED X",
    "mTWO HORIZONTAL STROKES TO THE RIGHTmUPPER HALF BLACKsRIGHT QUADRANT BLACKmVERTICAL FILL",
    "gD ANTICLOCKWISE ARROWv-ROTATED DIVISION SIGNjSTERISK OPERATORiBOLD XjULLET",
    "iC WITH OVERLAID BACKSLASHjCjDjROSS FORMEEu WITH FOUR DOTSzbTWO DOTSoPOMMEEnING LANESiDASH",
    "jIGIT EIGHToFIVEpOURoNINEoONEoSEVENpIXoTHREEpWOoZEROkVISION SIGNsLASH",
    "jOLLAR SIGN WITH OVERLAID BACKSLASHkT OPERATORiEQUALSiGREATER-THANiHANGUL CHIEUCHw AqIEUCu A",
    "pHIEUHu ApIEUNGu AvUpKHIEUKHw AqIYEOKv ApMIEUMu ApNIEUNu ApPHIEUPHw AqIEUPu ApRIEULu ApSIOS",
    "t ApTHIEUTHw AqIKEUTv AjEAVY WHITE RIGHTWARDS ARROWjORIZONTAL BAR WITH NOTCHjUMAN FIGURE",
    "iIDEOGRAPH ACCEPTtDVANTAGEtLLIANCEtTTENTIONsCENTREtONGRATULATIONuPYuRRECTsEARTHtIGHT",
    "tNTERPRISEtXCELLENTsFEMALEtINANCIALuREuVEtOURsHAVEtIGHsITEMsKINDERGARTENtOTOsLABORtEFTtOW",
    "sMALEtEDICINEuTALtOONsNAMEtIGHTuNEsONEsPRINTsQUESTIONsRELIGIONuSOURCEvTtIGHTsSCHOOLtECRET",
    "uVENtIXtOCIETYtPECIALtTOCKuUDYtUITABLEuNuPERVISEsTENtHREEtWOsWATERtOODjNFORMATION SOURCE",
    "jTALIC LATIN CAPITAL LETTER CzlRiKATAKANA ArErHAsEsIsOsUrIrKAsEsIsOsUrMAsEsIsOsUrNAsEsIsOsU",
    "rOrRAsEsIsOsUrSAsEsIsOsUrTAsEsIsOsUrUrWAsEsIsOrYAsOsUjOREAN CHARACTER CHAMKOzJUEUI",
    "iLATIN CAPITAL LETTER AzeBzeCzeDzeEzeFzeGzeHzeIzeJzeKzeLzeMzeNzeOzePzeQzeRzeSzeTzeUzeVzeWzeX",
    "zeYzeZoSMALL LETTER AzcBzcCzcDzcEzcFzcGzcHzcIzcJzcKzcLzcMzcNzcOzcPzcQzcRzcSzcTzcUzcVzcWzcX",
    "zcYzcZjESS-THANiMINUSjULTIPLICATION SIGN WITH CIRCUMFLEX ACCENTiNUMBER EIGHTEEN",
    "uY ON BLACK SQUAREqLEVENpFIFTEENtYu ON BLACK SQUAREqORTYu EIGHTvFIVEwOURvNINE",
    "vON BLACK SQUARExEvSEVENwIXvTHREEwWOrURTEENpNINETEENpSEVENTEENvY ON BLACK SQUAREqIXTEEN",
    "tY ON BLACK SQUAREpTENs ON BLACK SQUAREqHIRTEENuYv EIGHTwFIVExOURwNINEwON BLACK SQUAREyE",
    "wSEVENxIXwTHREExWOqWELVEsNTYv EIGHTwFIVExOURwNINEwON BLACK SQUAREyEwSEVENxIXwTHREExWO",
    "iOPEN CENTRE EIGHT POINTED STARiPARALLELjERPENDICULARjLUSjOSTAL MARKiREVERSE SOLIDUS",
    "jING OPERATORiSQUAREiTIMESjRIANGLEq DOWNiVERTICAL BARiWHITE BULLEToSTARjZiXiZERO WITH SLASH",
    "eULATION FUNCTIONfMFLEX ACCENTfS TENTcTYSCAPEj AT DUSKbJK RADICAL BAMBOOnLUEnOLT OF CLOTHoNE",
    "oXnRUSH ONEsTWOmC-SIMPLIFIED BIRDzCARTzDRAGONzEATzbVENzFISHzbLYzbROGzGATEzbOLDzHORSEzLEAF",
    "zbONGzSALTzbEEzbHELLzbILKzbPEECHzTANNED LEATHERzbOOTHzbURTLEzWINDnHOKEnITYoVILIANnLIFFoOTHES",
    "nOWmDEATHnIVINATIONnOGmEAT ONEqTHREErWOnWEnYEmFIREnOOTmGHOSTnRASS ONEsTHREEtWOmHANDnEAD",
    "pRT ONEsTWOnORNmJ-SIMPLIFIED DRAGONzEVENzTOOTHzbURTLEnADEmKNIFE ONEsTWOmLAME FOURrONErTHREE",
    "sWOnONG ONErTWOmMEAToSHnOONoRTARoTHERoUND ONEsTWOmNET FOURqONEqTHREErWOmOLDmPAW ONEqTWO",
    "nERSONmRAINoMoPnEPEATmSEALoCOND ONEtTHREEuWOnHEEPnILKoMPLIFIED HALF TREE TRUNKyORNxWALKyHEAT",
    "xYELLOWnMALL ONEsTWOnNAKEoOUT ONEsTWOnPIRIT ONEtTWOnUNmTABLEnHREADnIGERnURTLEmWALK ONErTWO",
    "oTER ONEsTWOnEST ONErTWOeSTROKE BXGlDlHmGmPnWGmXWGmZnGnTnWoGnZoPoZpGlNlPmDmGmZlQlSmGmPmTmWnG",
    "nZmZnWGnZlTmNlWGlXGbLAMSHELL MOBILE PHONEdPPER BOARDfING HANDS SIGNdSSICAL BUILDING",
    "cEAR SCREEN SYMBOLcINKING BEER MUGSjGLASSESdPBOARDcOCK FACE EIGHT OCLOCKq-THIRTY",
    "mLEVEN OCLOCKr-THIRTYlFIVE OCLOCKp-THIRTYmOUR OCLOCKp-THIRTYlNINE OCLOCKp-THIRTYlONE OCLOCK",
    "o-THIRTYlSEVEN OCLOCKq-THIRTYmIX OCLOCKo-THIRTYlTEN OCLOCKo-THIRTYmHREE OCLOCKq-THIRTY",
    "mWELVE OCLOCKr-THIRTYnO OCLOCKo-THIRTYfWISE CLOSED CIRCLE ARROWlONTOUR INTEGRAL",
    "kDOWNWARDS AND UPWARDS OPEN CIRCLE ARROWSkGAPPED CIRCLE ARROWkINTEGRALkOPEN CIRCLE ARROW",
    "kRIGHT AND LEFT SEMICIRCLE ARROWSpWARDS AND LEFTWARDS OPEN CIRCLE ARROWS",
    "zzd WITH CIRCLED ONE OVERLAYkTOP SEMICIRCLE ARROWlRIANGLE-HEADED OPEN CIRCLE ARROWdSE UP",
    "fD BOOKhINTERSECTION WITH SERIFShLOCK WITH KEYhMAILBOX WITH LOWERED FLAGuRAISED FLAGhSUBSET",
    "n OR EQUAL TOjPERSETp OR EQUAL TOhUMBRELLAiNION WITH SERIFSy AND SMASH PRODUCTdUD",
    "f WITH LIGHTNINGlRAINlSNOWlTORNADOdWN FACEbOATcCKROACHeTAIL GLASSdONUTcFFINcIN",
    "cLLISION SYMBOLdONf EQUALSgSIGNcMBINING ACUTE ACCENTw BELOWqTONE MARKp-GRAVE-ACUTEqMACRON",
    "lLMOST EQUAL TO ABOVEzbBELOWlNNUITY SYMBOLmTICLOCKWISE ARROW ABOVEyRING OVERLAY",
    "lSTERISK ABOVEtBELOWkBINDU BELOWlREVEp BELOWp-MACRONmIDGE ABOVErBELOWkCANDRABINDUmRONp BELOW",
    "lEDILLAlIRCUMFLEX ACCENTzc BELOWlLOCKWISE ARROW ABOVEuRING OVERLAYlOMMA ABOVEv RIGHTqBELOW",
    "mNJOINING MACRONzc BELOWlYRILLIC DASIA PNEUMATAtHUNDRED MILLIONS SIGNzcTHOUSANDS SIGNtKAVYKA",
    "tLETTER AzbBEzcIG YUSzbCHEzbDEzcJERVzbEFzcLzcMzcNzcRzcSzd-TEzbFITAzbGHEzbHAzdRD SIGNzbIzcE",
    "zcOTIFIED AzkBIG YUSzkEzbKAzbLITTLE YUSzbMONOGRAPH UKzbOzcMEGAzbPEzbSHAzdCHAzcOFT SIGNzbTE",
    "zcSEzbUzcKRAINIAN IEzbVEzbYATzcERUzcIzcUzbZEzcHEtMILLIONS SIGNtPALATALIZATIONvYEROKuOKRYTIE",
    "uSILI PNEUMATAtTEN MILLIONS SIGNuHOUSAND MILLIONS SIGNuITLOy LEFT HALFzRIGHT HALFtVZMET",
    "kDELETION MARKmVANAGARI DIGIT EIGHTzcFIVEzdOURzcNINEzcONEzcSEVENzdIXzcTHREEzdWOzcZERO",
    "vLETTER AzdKAzdNAzdPAzdRAzdUzdVIvSIGN AVAGRAHAlIAERESISt BELOWt-RINGlOT ABOVEt LEFTuRIGHT",
    "oBELOWt LEFTnTED ACUTE ACCENTrGRAVE ACCENTmUBLE ACUTE ACCENTrBREVEw BELOWrCIRCUMFLEX ABOVE",
    "rGRAVE ACCENTrINVERTED BREVEzg BELOWrLOW LINErMACRONx BELOWrOPEN MARK BELOWsVERLINE",
    "rPARENTHESES ABOVEsLUS SIGN ABOVEzcBELOWrRIGHTWARDS ARROW BELOWtNG BELOWrTILDEw LEFT HALF",
    "xRIGHT HALFrVERTICAL LINE ABOVEzgBELOWzbSTROKE OVERLAYqD CIRCUMFLEX ACCENTmWN TACK BELOW",
    "oWARDS ARROWkENCLOSING CIRCLEzb BACKSLASHuDIAMONDuKEYCAPuSCREENvQUARE",
    "uUPWARD POINTING TRIANGLElQUALS SIGN BELOWkFERMATAlOUR DOTS ABOVEkGLAGOLITIC LETTER AZU",
    "zdBIG YUSzeUKYzdCHRIVIzdDJERVIzeOBROzdFITAzeRITUzdGLAGOLIzdHERUzdIzeNITIAL IZHE",
    "zeOTATED BIG YUSzlSMALL YUSzeZHEzdKAKOzdLJUDIJEzdMYSLITEzdNASHIzdONUzdPOKOJIzdRITSIzdSHAzfTA",
    "zeLOVOzeMALL YUSzdTSIzeVRIDOzdUKUzdVEDEzdYATIzeERIzgUzfSTUzeOzeUzdZEMLJAzeHIVETE",
    "lRANTHA DIGIT FIVEzOURyONEySIXyTHREEzWOyZEROsLETTER AzKAzNAzPAzVInPHEME JOINERnVE ACCENT",
    "w BELOWqTONE MARKp-ACUTE-GRAVEqMACRONmEEK DIALYTIKA TONOSqKORONISqMUSICAL PENTASEME",
    "yTETRASEMEzRISEMEqPERISPOMENIqYPOGEGRAMMENIkHOMOTHETIC ABOVEmOK ABOVEmRNkINFINITY",
    "mVERTED BREVEy BELOWvIDGE BELOWtDOUBLE ARCH ABOVEzgBELOWlS BELOW",
    "kKATAKANA-HIRAGANA SEMI-VOICED SOUND MARKzdVOICED SOUND MARKmVYKA ABOVE LEFTxRIGHT",
    "kLATIN LETTER SMALL CAPITAL GzmLzmMzmNzmRqSMALL LETTER Azf WITH DIAERESISzfEzfLPHAzfOzfVzeB",
    "zfETAzeCzf CEDILLAzeDzeEzfSHzfTHzeFzfLATTENED OPEN A ABOVEzeGzeHzeIzfNSULAR DzmGzmRzmTzeKzeL",
    "zf WITH DOUBLE MIDDLE TILDEzfONG SzeMzeNzeOzf WITH DIAERESISzlLIGHT CENTRALIZATION STROKEzeP",
    "zeRzf BELOWzgROTUNDAzeSzfCHWAzeTzfURNED W BELOWzeUzf WITH DIAERESIS",
    "zlLIGHT CENTRALIZATION STROKEzeVzeWzf BELOWzeXzeZlEFT ANGLE ABOVEvBELOWqRROW ABOVEvBELOW",
    "uHEAD ABOVEzBELOWpHALF RING ABOVEzBELOWrRPOON ABOVEpPARENTHESIS ABOVE LEFTzcBELOW LEFT",
    "pRIGHT ARROW ABOVEzcBELOWpTACK BELOWoWARDS ARROW OVERLAYuHARPOON WITH BARB DOWNWARDS",
    "lIGATURE LEFT HALFzd BELOWtRIGHT HALFze BELOWnHT CENTRALIZATION STROKE BELOW",
    "lONG DOUBLE SOLIDUS OVERLAYpSOLIDUS OVERLAYqTROKE OVERLAYpVERTICAL LINE OVERLAYmW LINE",
    "kMACRONq BELOWrLEFT HALFzb BELOWrRIGHT HALFzc BELOWq-ACUTErBREVErGRAVElINUS SIGN BELOW",
    "kNOT TILDE ABOVElUMBER SIGN ABOVEkOGONEKq ABOVElLD PERMIC LETTER ANzdDOIzdNENOEzdSIIzdZATA",
    "lPEN MARK BELOWlVERLINEkPALATALIZED HOOK BELOWmRENTHESES ABOVEwBELOWwOVERLAYlLUS SIGN ABOVE",
    "uBELOWkRETROFLEX HOOK BELOWmVERSE SOLIDUS OVERLAYrD COMMA ABOVElIGHT ARROW ABOVEwBELOW",
    "vHEAD ABOVEzcND DOWN ARROWHEAD BELOWzfUP ARROWHEAD BELOWzbBELOWqHALF RING ABOVEzbBELOW",
    "sRPOON ABOVEqPARENTHESIS ABOVE RIGHTzdBELOW RIGHTqTACK BELOW",
    "pWARDS HARPOON WITH BARB DOWNWARDSmNG ABOVEpBELOWpOVERLAYkSEAGULL BELOWlHORT SOLIDUS OVERLAY",
    "rTROKE OVERLAYqVERTICAL LINE OVERLAYlNAKE BELOWlQUARE BELOWsRACKETS ABOVE",
    "lTRONG CENTRALIZATION STROKE BELOWlUSPENSION MARKkTHREE DOTS ABOVElILDEp BELOW",
    "qLEFT HALF BELOWqOVERLAYqRIGHT HALF BELOWlRIPLE ACUTE ACCENTrDOTrUNDERDOTlURNED COMMA ABOVE",
    "kUP TACK ABOVEsBELOWmWARDS ARROW BELOWlR ABOVElS ABOVEkVERTICAL LINE ABOVEyBELOWtTILDE",
    "kWIDE BRIDGE ABOVEpINVERTED BRIDGE BELOWmGGLY LINE BELOWkX ABOVEmBELOWl-X BELOWkZIGZAG ABOVE",
    "rBELOWdETdMAeERCIAL ATlMINUS SIGNdPASSeLEMENTeOSITION SYMBOLeRESSIONcNFETTI BALLeOUNDED FACE",
    "eUSED FACEdGRUENT WITH DOT ABOVEdICAL TAPERdJUNCTIONdSTRUCTION SIGNnWORKERdTAINS AS MEMBER",
    "mNORMAL SUBGROUPzc OR EQUAL TOjWITH LONG HORIZONTAL STROKEoOVERBAR",
    "oVERTICAL BAR AT END OF HORIZONTAL STROKEeINUOUS UNDERLINE SYMBOLeOUR INTEGRALeROL KNOBS",
    "iSEQUENCE INTRODUCERdVENIENCE STOREcOKED RICEeIEfNGcPTIC CAPITAL LETTER AKHMIMIC KHEIxLFA",
    "wBOHAIRIC KHEIwCROSSED SHEIyYPTOGRAMMIC EIEzlGANGIAzlNIzlSHEIwDALDAxEIxIALECT-P ALEFzhHORI",
    "zhKAPAzhNIwEIEwFEIxIwGAMMAyNGIAwHATExORIwIAUDAwKAPAxHEIyIxSIwL-SHAPED HAxAULAwMIwNIwO",
    "xLD COPTIC AINziDJAziESHziGANGIAziHAzkTzjEIzjORIziOOUziSHEIzkIMAzbNUBIAN NGIzjYIziSHIMAziWAU",
    "xOUwPIxSIwROwSAMPIxHEIyIMAxIMAxOUwTAUxHETHEwUAwVIDAwZATAiOMBINING NI ABOVErSPIRITUS ASPER",
    "zbLENIShEPACT DIGIT EIGHTtFIVEuOURtNINEtONEtSEVENuIXtTHREEuWOnNUMBER EIGHT HUNDREDzYuFIFTY",
    "wVE HUNDREDvORTYwUR HUNDREDuNINE HUNDREDyTYuONE HUNDREDuSEVEN HUNDREDzTYvIX HUNDREDxTYuTEN",
    "vHIRTYwREE HUNDREDvWENTYwO HUNDREDnTHOUSANDS MARKhFRACTION ONE HALFiULL STOP",
    "hMORPHOLOGICAL DIVIDERhOLD NUBIAN DIRECT QUESTION MARKsFULL STOPsINDIRECT QUESTION MARK",
    "sVERSE DIVIDERhSMALL LETTER AKHMIMIC KHEIvLFAuBOHAIRIC KHEIuCROSSED SHEIwYPTOGRAMMIC EIE",
    "zjGANGIAzjNIzjSHEIuDALDAvEIvIALECT-P ALEFzfHORIzfKAPAzfNIuEIEuFEIvIuGAMMAwNGIAuHATEvORI",
    "uIAUDAuKAPAvHEIwIvSIuL-SHAPED HAvAULAuMIuNIuOvLD COPTIC AINzgDJAzgESHzgGANGIAzgHAziTzhEI",
    "zhORIzgOOUzgSHEIziIMAyNUBIAN NGIzhYIzgSHIMAzgWAUvOUuPIvSIuROuSAMPIvHEIwIMAvIMAvOUuTAUvHETHE",
    "uUAuVIDAuZATAiYMBOL KAIpHI ROoMI ROoPI ROoSHIMA SIMApTAUROSoTAU ROdYLEFT SYMBOLeRIGHT SIGN",
    "cRALdNISH VERSE DIVIDERdRESPONDS TOcUCH AND LAMPdNTERBOREhSINKfING ROD TENS DIGIT EIGHTyFIVE",
    "zOURyNINEyONEySEVENzIXyTHREEzWOnUNIT DIGIT EIGHTyFIVEzOURyNINEyONEySEVENzIXyTHREEzWO",
    "dPLE WITH HEARTcWd FACEbRcABcEDIT CARDdSCENT MOONcICKETh BAT AND BALLcOCODILEdISSANTdSS MARK",
    "gOF JERUSALEMjLORRAINEgPATTY WITH LEFT CROSSBARrRIGHT CROSSBARhOMMEEm WITH HALF-CIRCLE BELOW",
    "fED FLAGSiNEGATIVE SQUARED LATIN CAPITAL LETTER PiSWORDSfING LANESdWNcUTCHdZEIRO SIGN",
    "cYING CAT FACEhFACEdSTAL BALLbSIbUBE ROOTcCUMBERcNEIFORM NUMERIC SIGN EIGHT ASHzeDISHzeGESH2",
    "zeSHAR2zeUzf VARIANT FORMzeVARIANT FORM USSUzv3yLAMITE FIFTYzhORTYzgONE THIRDzgTWO THIRDS",
    "xFIVE ASHzg TENUzdBAN2zh VARIANT FORMzeURUzdDISHzdGESH2zhUzdSHAR2zhUzeIXTHS DISHzdU",
    "ze VARIANT FORMyOUR ASHzg TENUzdBAN2zh VARIANT FORMzeURUzdDISHzdGESH2zhUzdSHAR2zhUzdU",
    "ze VARIANT FORMzdVARIANT FORM LIMMUzv AzwBzv4xNIGIDAESHzeMINzNE ASHzdDISHzdGESH2zdSHAR2zdU",
    "ze VARIANT FORMzdVARIANT FORM ILIMMUzw Azw3zw4xOLD ASSYRIAN ONE QUARTERzpSIXTHyNE BAN2zdURU",
    "zcEIGHTH ASHzdSHE3zcGESH2zgUzcHALF GURzcQUARTER ASHzkGURzcSHARUzcTHIRD DISHziVARIANT FORM A",
    "xSEVEN ASHzeDISHzeGESH2zeSHAR2zeUzf VARIANT FORMzeVARIANT FORM IMIN AzwBzv3",
    "yHAR2 TIMES GAL PLUS DISHztMINyIX ASHzf TENUzcDISHzcGESH2zcSHAR2zcUzd VARIANT FORM",
    "zcVARIANT FORM ASH9xTHREE ASHzh TENUzeBAN2zfURUzi VARIANT FORMzeDISHzeGESH2ziUzeSHAR2",
    "zj VARIANT FORMziUzj VARIANT FORMzeVARIANT FORM ESH16zu21yWO ASHzf TENUzcBAN2zdURUzcESHE3",
    "zcGESH2zgUzcSHAR2zgUzcTHIRDS DISHzjVARIANT FORM AkPUNCTUATION SIGN DIAGONAL COLONzlQUADCOLON",
    "zlTRICOLONzcOLD ASSYRIAN WORD DIVIDERzcVERTICAL COLONkSIGN Aq TIMES AxBADxGAN2 TENUxHAxIGI",
    "xLAGAR GUNUxMUSHxSAGq2qBr GUNUsTIMES ASH2yDUN3 GUNUyGALzbN2 TENUyHAyIGI GUNUzMINyLAGAByNUN",
    "zc TENUySHESHzbU2yU PLUS U PLUS Ur2s TIMES AzBALAGzGAN2 TENUzME PLUS ENzSHA3zTAK4qD",
    "r TIMES ESH2qKr TIMES ERIN2ySHITA PLUS GISHqLr TIMES ALyDIM2yGISHyHAyKAD3zIySHEyUSHrANrEPH",
    "qMARt TIMES KUGzbSHEqNr OVER ANsPLUS NAGA OPPOSING AN PLUS NAGAzdSQUAREDsTHREE TIMESrSHEqPIN",
    "qRADt TIMES KURrKABqSAL2rHs KABA TENUtOVER ASH OVER ASHzl CROSSING ASH OVER ASH OVER ASH",
    "zdTUG2 OVER TUG2 TUG2 OVER TUG2 PAPtZIDA TENUs2sGABpBArDs TIMES DISH TENUrG3rHAR2v TIMES AB2",
    "zdNIzdZArLs OVER BALsAGrRsA2qIr TIMES AyGARyIGI GUNUqUr CROSSING BUsOVER BU ABzbTIMES NA2",
    "zbUNrLUGu OVER BULUGrRs2pDAr TIMES TAK4rGs KISIM5 TIMES A PLUS MASHziMARzhBALAGziIzhGA",
    "zj PLUS MASHziIzjR2ziUDzhHAzhIRzj PLUS LUzhKAKzhLAziUzj PLUS MASH2zjMzhNEzhPAP PLUS PAPzhSI",
    "zhTAK4zhU2 PLUS GIR2zpMASHziSHtTIMES KURs3rMrRsA3t4qIrBrMs TIMES IGIzSHEzU U Us2t TIMES UDrN",
    "s KASKAL U GUNU DISHrSHt PLUS SHUqUr GUNUsOVER DUsSHESHIGrBs TIMES ESH2zSHEs2rGs TIMES ANSHE",
    "zbSHzd AT LEFTzDINzbUNzERIN2zGAzbIzcR2 GUNUzcSHzHAzbIzIGI GUNUzKASKALzbURzcSHU2",
    "zg PLUS KASKALzLAK-020zcMzd TIMES KURzbUH PLUS GISHzMASHzbESzbIzNIzPIzSHEzbI GUNUsUDrHrNs3",
    "t GUNUy GUNUs4rR2pEq OVER E NUN OVER NUNrTIMES PAPq2r TIMES A PLUS HA PLUS DAyGARyKURyMIyPAP",
    "ySALzHEyUqDINqGIRqLqNr CROSSING ENsOPPOSING ENsSQUAREDsTIMES GAN2zd TENUyMEqRENrIN2u XqSH2",
    "t CROSSING ESH2qZENt SHESHIG TIMES ASHzjHIzjIGI GUNUzjLAzlLzjMEzlSzjSUuTIMES Azc PLUS LAL",
    "zl TIMES LALzcNzbBADzbDUN3 GUNUzk GUNUzbGUDzbHAzd GUNUzbIGI GUNUzbKASKALzh SQUAREDzcU3zbLA",
    "zdL TIMES LALzcIzcUzbSHEzcUzbU2zcDpGAr GUNUr2s OVER GA2tTIMES A PLUS DA PLUS HAzhHAzhIGI",
    "zbB2 TENU PLUS TABzbNzc PLUS KAK PLUS AzbSHzd2ze PLUS GALzBADzcHAR2zcR PLUS RAzbURzd PLUS RA",
    "zDAzbIzcM GUNUzeTIMES SHEzbUBzcG TIMES IGI GUNUzkKASKALzELzc PLUS LAzbNzc TIMES GAN2 TENU",
    "zbRENzGAzcN2 TENUzcRzd PLUS DIzjNEzbIzc4zd PLUS AzcR2 PLUS SUzHA PLUS AziLU PLUS ESH2zcL",
    "zd PLUS LAzbI PLUS LIzbUB2zIGI GUNUzbSH PLUS HU PLUS ASHzKAKzcSKALzbIDzd PLUS LAL",
    "zbU3 PLUS ANzcSHU2 PLUS KASKALzLAzcMzd TIMES KURzbUHzME PLUS ENzbIzbUSHzNEzc PLUS E2ziGIzbUN",
    "zd OVER NUNzPAzSALzcRzbHEzd PLUS TURzcIDzdMzbUMzTAK4zUzbDzc PLUS DUzZIZ2rBAt CROSSING GABA",
    "uROTATED NINETY DEGREESrDs OVER GAD GAR OVER GARrLs GAD OVER GAD GAR OVER GARsAMrMrNs2",
    "t CROSSING GAN2uOVER GAN2uTENUrRs3rSHANqE22rSHTINw TIMES KURzeUqIr CROSSING GIsTIMES EyUr4",
    "s CROSSING GI4tOVER GI4rDIMrGrR2t GUNUs3t TIMES A PLUS IGIzbGAN2 TENUzbIGIzbLU PLUS IGIzbPA",
    "rSALsHt CROSSING GISHuTENUvIMES BADzbGISH CROSSING GISHzbTAK4qUr CROSSING GUr2s GUNU",
    "tTIMES IGI GUNUzKAKzd TIMES IGI GUNUzNUNzSAL PLUS TUG2rDs OVER GUD LUGAL",
    "tPLUS GISH TIMES TAK4tTIMES A PLUS KURzKURrLrMs TIMES SHErRs7sUNtSHpHAr GUNUsTENUw GUNUrLqI",
    "r TIMES ASHzc OVER HI TIMES ASHzc2yBADyDISHyGADyKINyNUNySHEyUqUrB2t TIMES ANzbHALzbKASKAL",
    "zbLISHzbUDrL2rSHpIq AqBqDIMt OVER IDIM BURzfSQUAREDqGrIs DIBtGUNU",
    "tOVER IGI SHIR OVER SHIR UD OVER UDtRIqLr TIMES GAN2 TENUr2qMr CROSSING IMsOPPOSING IM",
    "sSQUAREDsTIMES TAK4rINqNqRqSHpKAr TIMES AzDzb PLUS KU3zNSHEzSH2zc3yBADzbLAGzbRzIzUyERIN2zSH2",
    "yGAzbLzbN2 TENUzbRzc PLUS SHA3 PLUS AzIzbR2zbSHzd CROSSING GISHzePLUS SARzUzbDzbR7",
    "yHI TIMES ASH2yIGIzMyKAzbKzIzbDyLIzUzbMyMEzb PLUS DUzhGIzhTEzIzb PLUS NUNUZyNEzUNyPAzIyRUySA",
    "zbRzHAzbEzbIDzbUzcLzIGzUHURyTARzUyUz U Uz2zDzMUM TIMES PAzRzb2zSHyZIr2s CROSSING KA2rBrD2s3",
    "s4s5t OVER KAD5rKs TIMES IGI GUNUrLs CROSSING KALtTIMES BADrM2s4rP ELAMITErSKAL",
    "v LAGAB TIMES U OVER LAGAB TIMES UwOVER KASKAL LAGAB TIMES U OVER LAGAB TIMES UqESH2qI",
    "r TIMES BADyUzDrDrNrSALsHsIM5v OVER KISIM5qUr OVER HI TIMES ASH2 KU OVER HI TIMES ASH2r3r4",
    "s VARIANT FORMr7rLs GUNUrNrRs OPPOSING KURrSHU2qWU318pLArGABu SQUAREDvTIMES A",
    "zd PLUS DA PLUS HAzjGARzjLALzdLzdNzdSH ZIDA TENUzcBADzdIzcDARzcENzcGAzeRzdIzdUDzf PLUS GUD",
    "zcHAzeLzdI TIMES NUNzcIGI GUNUzdMze PLUS HAzkLUzcKIzeNzdU3zeLzf PLUS HI PLUS AzcLAGABzdISH",
    "zdUzeLzcMEze PLUS ENzdUSHzcNEzcSHE PLUS SUMzeITA PLUS GISH PLUS ERIN2zsTENUzeU2zg PLUS SHU2",
    "zdUMzcTAGzeK4zdE PLUS A PLUS SU PLUS NAzcUzd PLUS AzjU PLUS Uzd2 PLUS ASHzdDzdSHzcZU OVER ZU",
    "tRu GUNUz OVER LAGAR GUNU SHEvTIMES SHEzf PLUS SUMrHSHUrK-003u21v5u30u50v1u62",
    "u79 OVER LAK-079 GUNUu80v1 OVER LAK-081u92t130u42t210v9u20v5v8u38u65v6t343v7v8u83v4u90t441v9",
    "w TIMES GUzeIGIzePAP PLUS LU3znPAP PLUS LU3zeU2 PLUS BAu50v7u70u83u90v2v3v5t550t608u17",
    "w TIMES ASHzeBADzeDUN3 GUNU GUNUzeKU3zeLAzeTARzfEzeU2zfDzfRUDAu36u48w TIMES DUBzeGAzeIGI",
    "zh GUNUzeNIzePAP PLUS PAP PLUS LU3zeSHESH PLUS KIzeUDzfRUDAt724u49rLs TIMES LALrMs TIMES KUR",
    "zd PLUS RUqIrLrMMU2rSHqUr TIMES BADr2s CROSSING LU2tGUNU TIMES ASHtOPPOSING LU2tSHESHIG",
    "zb TIMES BADuQUAREDtTENUuIMES ALzBADzDISHzESH2ze PLUS LALzfTENUzGAN2 TENUzHALzbI TIMES BAD",
    "zIMzKAD2zd3ze PLUS ASHzbIzLA PLUS ASHzcGABzME PLUS ENzNEzbUzPAPzd PLUS PAP PLUS LU3zSHU",
    "zbI PLUS ASHzcK2 PLUS BUzTAK4zbUG2r3rGALu OPPOSING LUGALwVER LUGALvSHESHIGrHrLrMs OVER LUM",
    "zc GAR OVER GARpMAr GUNUsTIMES TAK4r2rHrRrSHt2qErSsHqIr PLUS ZA7rNqUr OVER MUrGs GUNUrNSUB",
    "rRGU2rSHt CROSSING MUSHuOVER MUSHze TIMES A PLUS NAzlGAzlKAKuTIMES AzbKURzbZAt3u GUNU",
    "vTIMES Azd PLUS DIzcDIzcZApNAr2r4rGAt INVERTEDuOPPOSING NAGAuTIMES SHU TENUtRrMs NUTILLUs2qE",
    "r SHESHIGsTIMES AyUDqIr TIMES Er2rMs TIMES GAN2 TENUzcR PLUS GAN2 TENUrNs9sDA2v TIMES ANzeSH",
    "zg PLUS ASHzdBALzdDIM GUNUzdGIzfSHzeUDzfLzdHIzdKESH2zdLAK-050zdMASHzeE PLUS GAN2 TENUzdNE",
    "zeUNzdPAP PLUS PAPzdSHEzg PLUS A ANznSHzp PLUS ASHzdUze PLUS Uze2 PLUS ASHzeRUDAzeSHrSAGqU",
    "r11t OVER NU11 BUR OVER BURuROTATED NINETY DEGREESuTENUrNs CROSSING NUNzg LAGAR OVER LAGAR",
    "tLAGAR TIMES GARzgMASHzgSALzj OVER NUN LAGAR TIMES SALzgUSHtOVER NUNtTENUsUZ",
    "u AB2 TIMES ASHGABzgBIzgDUGzgGUDzgIGI GUNUzgKAD3zgLAzgNEzgSILA3zgU2vKISIM5 TIMES BIzl UpPArD",
    "rNrPqESH2u ASTERISKqIr CROSSING PIsTIMES AzByBIzUyEyIzByUz2rR2sIGu OPPOSING PIRIGvTIMES KAL",
    "zcUDzcZApRArBqIqUpSArGs GUNUx TIMES HAtNUTILLUtOVER SAGtTIMES AzDUzcBzENzHAzIGI GUNUzKAKzbUR",
    "zLUMzMIzNUNzSALzbHE AT LEFTzcIDzTABzcK4zU2zbBzbMzbRzbSHrLs LAGAB TIMES ASH2rNGA2rRqHAs3",
    "t TIMES AzbBADzbGISHzbNEzbSHU2zbTURzbUzc PLUS As6t TENUsB6sR2rEs HUtOVER SHE",
    "zc GAD OVER GAD GAR OVER GARzdTAB OVER TAB GAR OVER GARtPLUS HUB2yNAM2ySARsG9sNsSHu2uLAMrID",
    "t TIMES AzbIMsMt TIMES AzbBALzcULUGzbDINzbGARzbIGIze GUNUzbKUSHU2zbLULzbMUGzbSALsNIGsR",
    "t OVER SHIR BUR OVER BURuTENUsTArUs OVER INVERTED SHUs2t PLUS DUG TIMES NIzE2 TIMES ANsBURqI",
    "r GUNUsTIMES TAK4rGs4t OVER SIG4 SHU2rK2rLA3qUr OVER SUrDs2rHURrMsASHrRs9pTAr ASTERISKsGUNU",
    "sTIMES HIyMIrBs OVER TAB NI OVER NI DISH OVER DISHtSQUAREDrGs TIMES BIzGUDzSHEzcUzTUG2zUDrK4",
    "t PLUS SAGrRqEr GUNUqIr TENUr2rLrRs OVER TIRzc GAD OVER GAD GAR OVER GARtTIMES TAK4qUrG2rKrM",
    "s TIMES GAN2 TENUzTHREE DISHrRs OVER TUR ZA OVER ZApUq GUDrOVER U PA OVER PA GAR OVER GAR",
    "ySUR OVER SURyU REVERSED OVER U REVERSEDrUs Uq2qBqDr GUNUsKUSHU2sSHESHIGz TIMES BAD",
    "sTIMES BADyMIyU PLUS U PLUS Uzo GUNUrUGqMr TIMES LAGAByMEzb PLUS DAySHA3yUrBINrUM",
    "t TIMES KASKALzbPAqNr GUNUqRr CROSSING URsSHESHIGr2s INVERTEDtTIMES A PLUS HAzhNAzbLzHAzNUN",
    "zU2zc PLUS ASHziBIzbDr4rIs3rUs TIMES AzbSHGABzBARzDARA3zbUNzGAzcLzcN2 TENUzcRzbUzHAzIGIzbM",
    "zbSHzKIzLAK-668zbU3zcMzMINzPAzSHEzbIG4zTUzU PLUS GUDzbDzbRUDAsDAu TIMES UqSHs TIMES AzKUzcR",
    "zTAK4s2sUMXsXqTUKIqZ3s TIMES KASKALrUpZAr SQUARED TIMES KURsTENUr7rGrMXqE2qIr OVER ZIr3rB",
    "s KABA TENUrGrZ2qUr OVER ZU PLUS SARr5s TIMES AzTHREE DISH TENUrBURrMcP ON BLACK SQUARE",
    "eWITH STRAWdCAKEdIDOcRLING STONEeY BRACKET EXTENSIONgLOGICAL ANDoORiOPdRENCY EXCHANGEjSIGN",
    "eY AND RICEdVED STEM PARAGRAPH SIGN ORNAMENTcSTARDeOMScT OF MEATbYCLONEcLINDRICITY",
    "cPRIOT SYLLABLE ArErIrJAsOrKAsEsIsOsUrLAsEsIsOsUrMAsEsIsOsUrNAsEsIsOsUrOrPAsEsIsOsUrRAsEsIsO",
    "sUrSAsEsIsOsUrTAsEsIsOsUrUrWAsEsIsOrXAsErZAsOeO-MINOAN SIGN CM001w2w4w5w6w7w8w9v10w1w2xBw3w5",
    "w7w9v21w3w4w5w6w7w8w9v30w3w4w5w6w7w8w9v40w1w4w6w7w9v50w1w2w3w4w5w6w8w9v60w1w2w3w4w6w7w8w9v70",
    "w1w2w3w4w5xBw6w8w9v80w1w2w3w4w5w6w7w8w9v90w1w2w4w5w6w7w8w9u100w1w2w3w4w5w7w8w9v10w2w4u301w2",
    "cRILLIC CAPITAL LETTER Az WITH BREVEzgDIAERESISzBKHASIAN CHEzm WITH DESCENDERzjDZEzjHA",
    "zLEUT KAyBARRED Ozh WITH DIAERESISzbSHKIR KAzEzIG YUSzbNOCULAR OzLENDED YUSzROAD OMEGA",
    "zYELORUSSIAN-UKRAINIAN IyCCHEzHEzc WITH DESCENDERzjIAERESISziVERTICAL STROKE",
    "zLOSED LITTLE YUSzROSSED OyDCHEzEzJEzcRVzOUBLE MONOCULAR OzgOzWEzZEzcLOzbHEzbWEzbZEzcHEyE",
    "z WITH DIAERESISzFzLzb WITH DESCENDERzhHOOKzhMIDDLE HOOKzhTAILzMzb WITH TAILzN",
    "zb WITH DESCENDERzhHOOKzhLEFT HOOKzhMIDDLE HOOKzhTAILzRzb WITH TICKzSzb WITH DESCENDERyFITA",
    "yGHEzc WITH DESCENDERziMIDDLE HOOKziSTROKEzo AND HOOKziUPTURNzJEyHAzb WITH DESCENDERzhHOOK",
    "zhSTROKEzbRD SIGNzWEyIz WITH DIAERESISzgGRAVEzgMACRONzEzb WITH BREVEzhGRAVEzOzbTAzcIFIED A",
    "ziBIG YUSziCLOSED LITTLE YUSziEziLITTLE YUSziYATzZHITSAzg WITH DOUBLE GRAVE ACCENTyJEyKA",
    "zb WITH DESCENDERzhHOOKzhSTROKEzhVERTICAL STROKEzHAKASSIAN CHEzJEzOMI DEzfJEzfZJEzeLJEzeNJE",
    "zeSJEzeTJEzeZJEzbPPAzSIyLHAzITTLE YUSzJEyMONOCULAR OzdGRAPH UKyNEUTRAL YERzJEyO",
    "z WITH DIAERESISzMEGAze WITH TITLOzTyPEzb WITH DESCENDERzhMIDDLE HOOKzSIyQAyREVERSED DZE",
    "ziTSEziYUziZEzHAzOUND OMEGAySCHWAze WITH DIAERESISzEMISOFT SIGNzHAzbCHAzbHAzd WITH DESCENDER",
    "zbORT Izg WITH TAILzfUzbWEzOFT DEzeELzfMzeSIGNzTRAIGHT Uzj WITH STROKEyTCHEzE",
    "zb WITH DESCENDERzhMIDDLE HOOKzSEzbHEzbSEzbWEzWEyUz WITH DIAERESISzhOUBLE ACUTEzgMACRONzK",
    "zbRAINIAN IEyVEyWEyYAzbEzbTzERUzd WITH BACK YERzjDIAERESISzIzNzUyZEzb WITH DESCENDER",
    "ziIAERESISzbMLYAzHEzc WITH BREVEziDESCENDERzjIAERESISzbWEsIGATURE A IEzbEN GHEzbTE TSE",
    "jKAVYKAjLETTER MULTIOCULAR OqPALOCHKAqSMALL CAPITAL ELjPAYEROKjSMALL LETTER Ax WITH BREVE",
    "zeDIAERESISxBKHASIAN CHEzk WITH DESCENDERzhDZEzhHAxLEUT KAwBARRED Ozf WITH DIAERESIS",
    "ySHKIR KAxExIG YUSyNOCULAR OxLENDED YUSxROAD OMEGAxYELORUSSIAN-UKRAINIAN IwCCHExHE",
    "z WITH DESCENDERzhIAERESISzgVERTICAL STROKExLOSED LITTLE YUSxROSSED OwDCHExExJEzRV",
    "xOUBLE MONOCULAR OzeOxWExZEzLOyHEyWEyZEzHEwEx WITH DIAERESISxFxLy WITH DESCENDERzfHOOK",
    "zfMIDDLE HOOKzfTAILxMy WITH TAILxNy WITH DESCENDERzfHOOKzfLEFT HOOKzfMIDDLE HOOKzfTAILxR",
    "y WITH TICKxSy WITH DESCENDERwFITAwGHEz WITH DESCENDERzgMIDDLE HOOKzgSTROKEzm AND HOOK",
    "zgUPTURNxJEwHAy WITH DESCENDERzfHOOKzfSTROKEyRD SIGNxWEwIx WITH DIAERESISzeGRAVEzeMACRONxE",
    "y WITH BREVEzfGRAVExOyTAzIFIED AzgBIG YUSzgCLOSED LITTLE YUSzgEzgLITTLE YUSzgYATxZHITSA",
    "ze WITH DOUBLE GRAVE ACCENTwJEwKAy WITH DESCENDERzfHOOKzfSTROKEzfVERTICAL STROKE",
    "xHAKASSIAN CHExJExOMI DEzdJEzdZJEzcLJEzcNJEzcSJEzcTJEzcZJEyPPAxSIwLHAxITTLE YUSxJE",
    "xONG-LEGGED DEwMONOCULAR OzbGRAPH UKwNARROW OxEUTRAL YERxJEwOx WITH DIAERESISxMEGA",
    "zc WITH TITLOxTwPALOCHKAxEy WITH DESCENDERzfMIDDLE HOOKxSIwQAwREVERSED DZEzgTSEzgYUzgZExHA",
    "xOUND OMEGAzcED VEwSCHWAzc WITH DIAERESISxEMISOFT SIGNxHAyCHAyHAzb WITH DESCENDERyORT I",
    "ze WITH TAILzdUyWExOFT DEzcELzdMzcSIGNxTRAIGHT Uzh WITH STROKEwTALL HARD SIGNzcTEzcYATxCHExE",
    "y WITH DESCENDERzfMIDDLE HOOKxHREE-LEGGED TExSEyHEySEyWExWEwUx WITH DIAERESISzfOUBLE ACUTE",
    "zeMACRONxKyRAINIAN IExNBLENDED UKwVEwWExIDE ESwYAyEyTxERUzb WITH BACK YERzhDIAERESISxIxNxU",
    "wZEy WITH DESCENDERzgIAERESISyMLYAxHEz WITH BREVEzgDESCENDERzhIAERESISyWEqIGATURE A IE",
    "yEN GHEyTE TSEjTHOUSANDS SIGNaDAGGERg KNIFEhWITH LEFT GUARDmRIGHT GUARDcLET SYMBOLcNCERdGO",
    "cRK SHADEgUNGLASSEScSH SYMBOLfWITH LEFT UPTURNeED LOW LINEhOVERLINE",
    "hTRIANGLE-HEADED RIGHTWARDS ARROWcTA LINK ESCAPEbC1c2c3c4cSbEAF PERSONcCIDUOUS TREE",
    "eMAL EXPONENT SYMBOLiSEPARATOR KEY SYMBOLdREASE FONT SIZE SYMBOLcERcGREE CELSIUShFAHRENHEIT",
    "hSIGNcLdETEdIVERY TRUCKdTA EQUAL TOcNTISTRY SYMBOL LIGHT DOWN AND HORIZONTALzr WITH CIRCLE",
    "zxTRIANGLEzxWAVExUP AND HORIZONTALzp WITH CIRCLEzvTRIANGLEzvWAVExVERTICAL AND BOTTOM LEFT",
    "zsRIGHTzlTOP LEFTzpRIGHTzlWAVEzhWITH CIRCLEzmTRIANGLEcPARTMENT STOREcRELICT HOUSE BUILDING",
    "cSCENDING NODEdERET CAPITAL LETTER AYxBEExCHEExDEExEFyLyMyNzGyRySzHyTHyWxGAYxHxJEExKAY",
    "xLONG AzeHzdEzdIzdOzeOxOIyWxPEExSHORT AzfHzeEzeIzeOzfOxTEEyHEExVEExWUxYEExZEEyHEE",
    "iSMALL LETTER AYvBEEvCHEEvDEEvEFwLwMwNxGwRwSxHwTHwWvGAYvHvJEEvKAYvLONG AzcHzbEzbIzbOzcOvOIwW",
    "vPEEvSHORT AzdHzcEzcIzcOzdOvTEEwHEEvVEEvWUvYEEvZEEwHEEfTg ISLANDdKTOP COMPUTERiWINDOW",
    "cVANAGARI ABBREVIATION SIGNmCUTE ACCENTlCARETlDANDAmIGIT EIGHTrFIVEsOURrNINErONErSEVENsIX",
    "rTHREEsWOrZEROmOUBLE DANDAlGAP FILLERmRAVE ACCENTlHEADSTROKElJAIN OMlLETTER AtAtItUtWtYsBA",
    "tBAtHAsCAuNDRA AzEzOtHAsDAtDAuDAvHAuHAtHAsEsFAsGAtGAtHAuHAtLOTTAL STOPsHAtEAVY YAsItIsJAtHA",
    "tJAsKAtHAuHAsLAtLAuLAsMAuRWARI DDAsNAtGAtNAuNAtYAsOtEtOEsPAtHAsQAsRAtHAtRAsSAtHAuORT AyEyO",
    "tSAsTAtHAtTAuHAsUtEtUuEsVAtOCALIC LzcLzbRzcRsYAtYAsZAtHAlOMlSIGN ANUSVARArVAGRAHA",
    "qCANDRABINDUzc AVAGRAHAzdTHREEzeWOzdVIRAMAqDOUBLE CANDRABINDU VIRAMAqHIGH SPACING DOT",
    "qINVERTED CANDRABINDUqNUKTAqPUSHPIKAqSIDDHAMrPACING CANDRABINDUqVIRAMAsSARGA",
    "mTRESS SIGN ANUDATTAxUDATTAlVOWEL SIGN AAxIxUxWxYwCANDRA EzeLONG EzeOwEwIxIwOxExOE",
    "wPRISHTHAMATRA EwSHORT EzdOwUxExUyEwVOCALIC LzgLzfRzgRdICE CONTROL FOURpONEpSTRINGpTHREEqWO",
    "bIAERESISdMETER SIGNeOND OPERATORiSHAPE WITH A DOT INSIDEiTARGETiWITH BOTTOM HALF BLACK",
    "nLEFT HALF BLACKnRIGHT HALF BLACKnTOP HALF BLACKcE FACE-1j2j3j4j5j6dSEL LOCOMOTIVE",
    "cFFERENCE BETWEENcGIT EIGHTl COMMAmFULL STOPgFIVEk COMMAlFULL STOPhOURk COMMAlFULL STOPgNINE",
    "k COMMAlFULL STOPgONEj COMMAkFULL STOPgSEVENl COMMAmFULL STOPhIXj COMMAkFULL STOPgTHREE",
    "l COMMAmFULL STOPhWOj COMMAkFULL STOPgZEROk COMMAlFULL STOPdRAM FOR EARTHqLY HEAVENuUMAN",
    "lGREATER YANGuINlHEAVENLY EARTHmUMAN EARTHlLESSER YANGtINcMENSION ORIGIN",
    "cNGBAT CIRCLED SANS-SERIF DIGIT EIGHTziFIVEzjOURziNINEziONEziSEVENzjIXziTHREEzjWOziZERO",
    "zcNUMBER TENiNEGATIVE CIRCLED DIGIT EIGHTzgFIVEzhOURzgNINEzgONEzgSEVENzhIXzgTHREEzhWO",
    "zNUMBER TENzSANS-SERIF DIGIT EIGHTzrFIVEzsOURzrNINEzrONEzrSEVENzsIXzrTHREEzsWOzrZERO",
    "zlNUMBER TENcRECT CURRENT SYMBOL FORM TWOhHITcSABLED CARePPOINTED BUT RELIEVED FACEnFACE",
    "dCONTINUOUS UNDERLINE SYMBOLdGUISED FACEcTTO MARKcVES AKURU DIGIT EIGHTsFIVEtOURsNINEsONE",
    "sSEVENtIXsTHREEtWOsZEROnOUBLE DANDAmEND OF TEXT MARKmGAP FILLERmINITIAL RAmLETTER AuAtBAuHA",
    "tCAuHAtDAuDAvHAuHAtEtGAuHAtHAtIuItJAtKAuHAtLAuLAtMAtNAuGAuNAuYAtOtPAuHAtRAtSAuHAuSAtTAuHAuTA",
    "tUuUtVAtYAuYAtZAmMEDIAL RAtYAmPREFIXED NASAL SIGNmSIGN ANUSVARArCANDRABINDUrHALANTArNUKTA",
    "mVIRAMAnOWEL SIGN AAyIxExIyIxOxUyUdIDESeNG MASKeSION SIGNkLASHjTIMESdORCE SYMBOLcYA LAMP",
    "cZZY FACEgSYMBOLbLEbNA DOUBLE HELIXbO NOT LITTER SYMBOLcCUMENTi WITH PICTUREoTEXT",
    "s AND PICTUREcDOcES NOT CONTAIN AS MEMBERuNORMAL SUBGROUPzk OR EQUALjDIVIDE",
    "p WITH REVERSED NEGATION SLASHjFORCEjPRECEDEq OR EQUALlOVEjSUCCEEDq OR EQUALcGd FACE",
    "dRA ABBREVIATION SIGNgLETTER AoAoIoUnBAoHAnCAoHAnDAoDApHAoHAnEnGAoHAnHAnIoInJAoHAnKAoHAnLA",
    "nMAnNAoGAoNAoYAnOnPAoHAnRAoRAnSAoHAoSAnTAoHAoTApHAnUoUnVAnYAgSIGN ANUSVARAlNUKTAlVIRAMA",
    "nSARGAgVOWEL SIGN AAsIsUrErIsIrOrUsUrVOCALIC RzbRcLLAR SIGNdPHINcMINO TILE HORIZONTAL BACK",
    "w-00-00zc1zc2zc3zc4zc5zc6y1-00zc1zc2zc3zc4zc5zc6y2-00zc1zc2zc3zc4zc5zc6y3-00zc1zc2zc3zc4zc5",
    "zc6y4-00zc1zc2zc3zc4zc5zc6y5-00zc1zc2zc3zc4zc5zc6y6-00zc1zc2zc3zc4zc5zc6mVERTICAL BACK",
    "u-00-00z1z2z3z4z5z6w1-00z1z2z3z4z5z6w2-00z1z2z3z4z5z6w3-00z1z2z3z4z5z6w4-00z1z2z3z4z5z6w5-00",
    "z1z2z3z4z5z6w6-00z1z2z3z4z5z6cNG SIGNcORcT ABOVEeMINUSeOPERATORePLUSdTED CIRCLEiROSShFENCE",
    "hLINE FACEhOBELOShRIGHT-POINTING ANGLEhSOLIDUSiQUAREhTRANSPOSITION MARKERcUBLE ACUTE ACCENT",
    "hCIRCLED DIGIT EIGHTvFIVEwOURvNINEvONEvSEVENwIXvTHREEwWOpNUMBER TENiOLON EQUALiURLY LOOP",
    "hDAGGERiOWN TACKhEXCLAMATION MARKhHIGH-REVERSED-9 QUOTATION MARKiYPHENhINTEGRALlRSECTION",
    "hLEFT ARC GREATER-THAN BRACKETiOGICAL ANDpORjW LINEk-9 QUOTATION MARK",
    "lREVERSED-9 QUOTATION MARKhNESTED GREATER-THANoLESS-THANx WITH UNDERBARhOBLIQUE HYPHENhPLUS",
    "iRECEDESjIMEm QUOTATION MARKhQUESTION MARKhRIGHT ARC LESS-THAN BRACKEThSOLIDUS OPERATOR",
    "iQUARE INTERSECTIONoUNIONiTACKED COMMAjROKE NOT SIGNiUBSETjCCEEDSjPERSETjSPENSION MARKhUNION",
    "iP TACKhVERTICAL BARt DOUBLE LEFT TURNSTILEzcRIGHT TURNSTILEuLEFT TURNSTILEqLINE",
    "hWAVY OVERLINEg-ENDED MULTIMAPhLINE EQUAL TO OR GREATER-THANyLESS-THAN",
    "mSLANTED EQUAL TO OR GREATER-THANzhLESS-THANuGREATER-THAN OR EQUAL TOuLESS-THAN OR EQUAL TO",
    "hSTRUCK CAPITAL CwGAMMAwHwNwPxIwQwRwZoITALIC CAPITAL DvSMALL DzcEzcIzcJoN-ARY SUMMATION",
    "oSMALL GAMMAuPIgD FEMALE SIGNiMALE SIGNiSYMBOLdGHNUTcVE OF PEACEcWN ARROWHEADfFISH TAIL",
    "fRIGHT DIAGONAL ELLIPSISfTACKj WITH CIRCLE BELOWe-POINTING RED TRIANGLEoSMALL RED TRIANGLE",
    "oTRIANGLE WITH LEFT HALF BLACKzdRIGHT HALF BLACKeWARD FACING HOOKu WITH DOTqNOTCHED HOOK",
    "zd WITH DOTiS ANCORAlRROWp AND RIGHT ONE EIGHTH BLOCKqFROM BARqLEFTWARDS OF UPWARDS ARROW",
    "qTO BARqWITH CORNER LEFTWARDSvDOUBLE STROKEvEQUILATERAL ARROWHEADvHORIZONTAL STROKE",
    "vLARGE TRIANGLE ARROWHEADvMEDIUM TRIANGLE ARROWHEADvNOTCHED TAILvSMALL EQUILATERAL ARROWHEAD",
    "zcTRIANGLE ARROWHEADvTIP LEFTWARDSzRIGHTWARDSkBLACK ARROWqCIRCLED WHITE ARROW",
    "kCOMPRESSED ARROWkDASHED ARROWlOUBLE ARROWkFINGER-POST ARROW",
    "kHARPOON WITH BARB LEFT BESIDE DOWNWARDS HARPOON WITH BARB RIGHT",
    "zpUPWARDS HARPOON WITH BARB RIGHTziFROM BARziTO BARzhWARDSzdRIGHT FROM BARzjTO BARziWARDS",
    "lEAVY ARROWqCOMPRESSED ARROWkPAIRED ARROWSkQUADRUPLE ARROWkROCKETkSANS-SERIF ARROW",
    "lQUARED ARROWkTRIANGLE ARROWHEADs-HEADED ARROWzg LEFTWARDS OF UPWARDS TRIANGLE-HEADED ARROW",
    "zhTO BARzhWITH BOLD SHAFTzmDOUBLE HORIZONTAL STROKEzmHEAVY SHAFTzmLONG TIP LEFTWARDS",
    "zvRIGHTWARDSzmMEDIUM SHAFTzmNARROW SHAFTzmVERY HEAVY SHAFTzbDASHED ARROWzbPAIRED ARROWS",
    "zbZIGZAG ARROWnPLE ARROWlWO HEADED ARROWn-HEADED ARROW WITH TRIANGLE ARROWHEADSkWHITE ARROW",
    "v WITHIN TRIANGLE ARROWHEADkZIGZAG ARROWbRACHMA SIGNdFTING POINT RIGHTWARDS ARROWdGONg FACE",
    "cESScIVE SLOW SIGNcOMEDARY CAMELdOLING FACEdP OF BLOODeLETcUM WITH DRUMSTICKSbUCKcMPLING",
    "cPLOYAN AFFIX ATTACHED E HOOKyI HOOKyLEFT-TO-RIGHT SECANTySECANTyTAILzbNGENTzg HOOK",
    "pHIGH ACUTEuCIRCLEuDOTuGRAVEuLINEvONG GRAVEuTIGHT ACUTEuVERTICALzd SECANTuWAVE",
    "pLEFT HORIZONTAL SECANTqOW ACUTEuRROWtCIRCLEtDOTtGRAVEtLINEuONG GRAVEtTIGHT ACUTEtVERTICAL",
    "zc SECANTtWAVEpMID HORIZONTAL SECANTtVERTICAL SECANTpRIGHT HORIZONTAL SECANTjDOUBLE MARK",
    "jLETTER ArOUqBqDr SrHqErErUqFr NqGr R SqHrLqIrEqJr Mt SsNt SsSt WITH DOTsWITH DOT",
    "zbS INSIDE AND ABOVEqKr MsR SrKqLrHrONG IvUqMr Nt SsSsWITH DOTqNr Mt SsSsWITH DOTrASAL AwIwO",
    "wUqOrArOHrUrWqPr NrERNIN AMyNqRr SrHrOMANIAN IzUqSr Jt SsKt RsMsNsPt RsSsTt RsWITH DOT",
    "zb BELOWrHORT IrLOAN ANwDHwEExHxNwJwONxWwUqTr R SsSrHqUr NrHrIqVrOCALIC MqWr RrArEIrHrIrOsW",
    "qXrWqYEjPUNCTUATION CHINOOK FULL STOPjSIGN O WITH CROSSjTHICK LETTER SELECTORbVD",
    "aE-MAIL SYMBOLbAGLEcRd OF MAIZEhRICEeWITH HEARING AIDdTHf GLOBE AMERICASnSIA-AUSTRALIA",
    "mEUROPE-AFRICAhROUNDcST SYRIAC CROSSbDITORIAL CORONISbGGcYPTIAN HIEROGLYPH A001x2x3x4x5yAx6",
    "yAyBx7x8x9w10x1x2x3x4yAx5x6x7yAx8x9w20x1x2x3x4x5x6x7x8x9w30x1x2yAx3x4x5x6x7x8x9w40yAx1x2yAx3",
    "yAx4x5yAx6x7x8x9w50x1x2x3x4x5x6x7x8x9w60x1x2x3x4x5x6x7x8x9w70vA001y2y3y4y5y6y7zAzBy8y9x10y1",
    "y2y3y4y5y6y7y8y9x20y1y2y3y4y5y6y7y8y9x30y1y2uB001x2x3x4x5yAx6x7x8x9vEGIN SEGMENTuC001x2yAyB",
    "yCx3x4x5x6x7x8x9w10yAx1x2x3x4x5x6x7x8x9w20x1x2x3x4uD001x2x3x4x5x6x7x8yAx9w10x1x2x3x4x5x6x7x8",
    "x9w20x1x2x3x4x5x6x7yAx8x9w30x1yAx2x3x4yAx5x6x7x8x9w40x1x2x3x4x5x6yAx7x8yAx9w50yAyByCyDyEyFyG",
    "yHyIx1x2yAx3x4yAx5x6x7x8x9w60x1x2x3x4x5x6x7yAyByCyDyEyFyGyHuE001x2x3x4x5x6x7x8yAx9yAw10x1x2",
    "x3x4x5x6yAx7yAx8x9w20yAx1x2x3x4x5x6x7x8yAx9w30x1x2x3x4yAx6x7x8vND SEGMENTuF001yAx2x3x4x5x6x7",
    "x8x9w10x1x2x3yAx4x5x6x7x8x9w20x1yAx2x3x4x5x6x7x8x9w30x1yAx2x3x4x5x6x7yAx8yAx9w40x1x2x3x4x5yA",
    "x6yAx7yAx8x9w50x1yAyByCx2x3uG001x2x3x4x5x6yAx7yAyBx8x9w10x1yAx2x3x4x5x6x7x8x9w20yAx1x2x3x4x5",
    "x6yAx7x8x9w30x1x2x3x4x5x6yAx7yAx8x9w40x1x2x3yAx4x5yAx6x7x8x9w50x1x2x3x4uH001x2x3x4x5x6yAx7x8",
    "vORIZONTAL JOINERuI001x2x3x4x5yAx6x7x8x9yAw10yAx1yAx2x3x4x5vNSERT AT BOTTOM ENDzmSTART",
    "zfTOP ENDzjSTARTuK001x2x3x4x5x6x7x8uL001x2yAx3x4x5x6yAx7x8uM001yAyBx2x3yAx4x5x6x7x8x9w10yAx1",
    "x2yAyByCyDyEyFyGyHx3x4x5yAx6yAx7yAx8x9w20x1x2yAx3x4yAx5x6x7x8yAx9w30x1yAx2x3yAyBx4x5x6x7x8x9",
    "w40yAx1x2x3x4uN001x2x3x4x5x6x7x8x9w10x1x2x3x4x5x6x7x8yAyBx9w20x1x2x3x4x5yAx6x7x8x9w30x1x2x3",
    "yAx4yAx5yAx6x7yAx8x9w40x1x2vL001y2y3y4y5zAy6y7y8y9x10y1y2y3y4y5y6y7zAy8y9x20vU001y2y3y4y5y6",
    "y7y8y9x10zAy1zAy2y3y4y5y6y7y8zAy9x20y1y2zAuO001yAx2x3x4x5yAx6yAyByCyDyEyFx7x8x9w10yAyByCx1x2",
    "x3x4x5x6x7x8x9yAw20yAx1x2x3x4yAx5yAx6x7x8x9yAw30yAx1x2x3yAx4x5x6yAyByCyDx7x8x9w40x1x2x3x4x5",
    "x6x7x8x9w50yAyBx1vVERLAY MIDDLEuP001yAx2x3yAx4x5x6x7x8x9w10x1uQ001x2x3x4x5x6x7uR001x2yAx3yA",
    "yBx4x5x6x7x8x9w10yAx1x2x3x4x5x6yAx7x8x9w20x1x2x3x4x5x6x7x8x9uS001x2yAx3x4x5x6yAx7x8x9w10x1x2",
    "x3x4yAyBx5x6x7yAx8x9w20x1x2x3x4x5x6yAyBx7x8x9w30x1x2x3x4x5yAx6x7x8x9w40x1x2x3x4x5x6uT001x2x3",
    "yAx4x5x6x7yAx8yAx9yAw10x1yAx2x3x4x5x6yAx7x8x9w20x1x2x3x4x5x6x7x8x9w30x1x2yAx3yAx4x5x6uU001x2",
    "x3x4x5x6yAyBx7x8x9w10x1x2x3x4x5x6x7x8x9w20x1x2x3yAx4x5x6x7x8x9yAw30x1x2yAx3x4x5x6x7x8x9w40x1",
    "x2uV001yAyByCyDyEyFyGyHyIx2yAx3x4x5x6x7yAyBx8x9w10x1yAyByCx2yAyBx3x4x5x6x7x8x9w20yAyByCyDyE",
    "yFyGyHyIyJyKyLx1x2x3yAx4x5x6x7x8yAx9yAw30yAx1yAx2x3yAx4x5x6x7yAx8x9w40yAvERTICAL JOINERuW001",
    "x2x3yAx4x5x6x7x8x9yAw10yAx1x2x3x4yAx5x6x7yAx8yAx9w20x1x2x3x4yAx5uX001x2x3x4yAyBx5x6yAx7x8yA",
    "uY001yAx2x3x4x5x6x7x8uZ001x2yAyByCyDx3yAyBx4yAx5yAx6x7x8x9w10x1x2x3x4x5yAyByCyDyEyFyGyHyIx6",
    "yAyByCyDyEyFyGyHbIGHT PETALLED OUTLINED BLACK FLORETTEhOINTED BLACK STARoPINWHEEL STAR",
    "oRECTILINEAR BLACK STARgSPOKED ASTERISKgTEARDROP-SPOKED PROPELLER ASTERISKfH NOTE",
    "bJECT SYMBOLbLBASAN LETTER ApBEpCEqHEpDEqHEpEqIpFEpGEqHAMMArEqJEpHEpIpJEpKEqHEpLEqLEpMEpNA",
    "qDEqEqJEpOpPEpQEpREqREpSEqHEpTEqHEpUpVEpXEpYpZEqHEcECTRIC ARROWjLIGHT BULBjPLUGjTORCH",
    "iAL INTERSECTIONdMENT OFk OPENING DOWNWARDStUPWARDSlWITH DOT ABOVEqLONG HORIZONTAL STROKE",
    "qOVERBARqTWO HORIZONTAL STROKESqUNDERBARqVERTICAL BAR AT END OF HORIZONTAL STROKEdPHANT",
    "dVATORcFcYMAIC LETTER ALEPHqYINpBETHpDALETHpGIMELpHErTHpKAPHpLAMEDHpMEMpNUNpPEpQOPHpRESH",
    "pSADHErMEKHqHINpTAWqETHpWAWpYODHpZAYINjIGATURE ZAYIN-YODHbM DASHdQUADdSPACE",
    "cOJI COMPONENT BALDqCURLY HAIRqRED HAIRqWHITE HAIRgMODIFIER FITZPATRICK TYPE-1-2zh3zh4zh5zh6",
    "cPHASIS SYMBOLdTY DOCUMENTgNESThOTEk PADnGEgPAGEkSgSETj WITH LEFT ARROW ABOVEpOVERBAR",
    "pRIGHT ARROW ABOVEpSMALL CIRCLE ABOVEbN DASHdQUADdSPACEcD OF GUARDED AREAhLINEhMEDIUMhPROOF",
    "kTECTED AREAhSELECTED AREAhTEXTiRANSMISSIONt BLOCKeWITH LEFTWARDS ARROW ABOVEcQdUIRY",
    "cTER SYMBOLcVELOPEi WITH DOWNWARDS ARROW ABOVEoLIGHTNINGbOLcMcTbPAbQUAL AND PARALLEL TO",
    "gTO BY DEFINITIONjOR GREATER-THANmLESS-THANmPRECEDESmSUCCEEDSfS COLONhSIGN",
    "l ABOVE LEFTWARDS ARROWsPLUS SIGNsRIGHTWARDS ARROWsTILDE OPERATORnND SLANTED PARALLEL",
    "zh WITH TILDE ABOVEmWITH BUMPY ABOVErDOT BELOWrINFINITY BELOW",
    "rTWO DOTS ABOVE AND TWO DOTS BELOWhWITH ASTERISKdIANGULAR TOeVALENT TOlWITH FOUR DOTS ABOVE",
    "bRASE TO THE LEFTnRIGHTcIS FORM ONEkTWOcROR-BARRED BLACK CIRCLEtDIAMONDtSQUAREnWHITE CIRCLE",
    "tDIAMONDtSQUAREbSAcCdAPEcTIMATED SYMBOLiSbTBcHIOPIC COLON",
    "lMBINING GEMINATION AND VOWEL LENGTH MARKzfMARKtVOWEL LENGTH MARKmMAjDIGIT EIGHTpFIVEqOUR",
    "pNINEpONEpSEVENqIXpTHREEqWOjFULL STOPjNUMBER EIGHTYqFIFTYrORTYqHUNDREDqNINETYqSEVENTYrIXTY",
    "qTENt THOUSANDrHIRTYrWENTYjPARAGRAPH SEPARATORkREFACE COLONjQUESTION MARKjSECTION MARK",
    "lMICOLONkYLLABLE BAuAtBAvAuEvEuIuOuUtEuEtItOuAtUtWAuEvEuIsCAuAtCAvAuEvEuHAwAvEwEvHAxAwExEwI",
    "wOwUvIvOvUuIuOuUtEuEtHAvAuEvEuIuOvAuUuWAtItOuAtUtWAsDAuAtDAvAuEvEuHAAvEwEvIvOvUuIuOvAuUuWAtE",
    "uEtItOuAtUtWAtZAAuEvEuIuOuUsFAuAtEuEtItOtUtWAuEvEuItYAsGAuAtEuEtGAvAuEvEuIuOuUuWAwAvEwEvItI",
    "tLOTTAL AzcAzbEzcEzbIzbOzcAzbUzbWAtOuAtUuRAGE BWEEzcIzFWEEzcIzGWEzdEzcIzHHWAzKWEzdEzcIzMWEE",
    "zcIzPWEEzcIzQWEzdEzcItWAvAuEvEuItYAvAuEvEuIuOuUsHAuAtEuEtHAvAuEvEuIuOuUuWAvEwEvIuYAwAvEwEvI",
    "vOvUtItOuAtUsJAuAtEuEtItOuAtUtWAsKAuAtEuEtItOuAtUtWAvAuEvEuItXAvAuEvEuIuOuUuWAwAvEwEvItYAvA",
    "uEvEuIuOuUsLAuAtEuEtItOuAtUtWAsMAuAtEuEtItOuAtUtWAuEvEuItYAsNAuAtEuEtItOuAtUtWAtYAvAuEvEuIuO",
    "vAuUuWAsPAuAtEuEtHAvAvRYNGEAL AzfAzeEzfEzeIzeOzeUuEvEuIuOvAuUuWAtItOuAtUtWAuEvEuIsQAuAtEuE",
    "tHAvAuEvEuIuOuUuWAwAvEwEvItItOuAtUtWAvAuEvEuItYAvAuEvEuIuOuUsRAuAtEuEtItOuAtUtWAtYAsSAuAtE",
    "uBATBEIT BWAzdFWAzdMWAzdPWAuEtHAvAuEvEuIuOvAuUuWAtItOuAtSAvAuEvEuIuOuUtUtWAtZAvAuEvEuIuOuU",
    "uWAsTAuAtEuEtHAvAuEvEuIuOvAuUuWAtItOuAtSAvAuEvEuIuOuUuWAtTHAAvEwEvIvOvUtUtWAtZAvAuEvEuIuOvA",
    "uUsVAuAtEuEtItOtUtWAsWAuAtEuEtItOuAtUsXAuAtEuEtItOuAtUtWAvAuEvEuItYAvAuEvEuIuOuUsYAuAtEuEtI",
    "tOuAtUsZAuAtEuEtHAvAuEvEuIuOuUuWAtItOuAtUtWAtZAvAuEvEuIuOuUjTONAL MARK CHIRETuDERETz-HIDET",
    "vIFATuHIDETuKENATvURTuRIKRIKuSHORT RIKRIKuYIZETjWORDSPACEcXbULER CONSTANTcRO SIGN",
    "e-CURRENCY SIGNePEAN CASTLEjPOST OFFICEbVERGREEN TREEbXCESSdLAMATION MARKmQUESTION MARK",
    "cPRESSIONLESS FACEcTENDED ARABIC-INDIC DIGIT EIGHTzdFIVEzeOURzdNINEzdONEzdSEVENzeIXzdTHREE",
    "zeWOzdZEROdRATERRESTRIAL ALIENeEMELY HEAVY FIVE SPOKED ASTERISKqGREEK CROSSqSALTIRE",
    "rIX SPOKED ASTERISKqWHITE CIRCLEwSQUAREbYEdGLASSESdSaFACE HOLDING BACK TEARSfMASSAGEfPALM",
    "fSAVOURING DELICIOUS FOODgCREAMING IN FEARfTHROWING A KISSfWITH COLD SWEATmWBOY HAT",
    "kDIAGONAL MOUTHkFINGER COVERING CLOSED LIPSkHEAD-BANDAGEkLOOK OF TRIUMPHkMEDICAL MASKlONOCLE",
    "kNO GOOD GESTUREkOK GESTURElNE EYEBROW RAISEDlPEN EYES AND HAND OVER MOUTHpMOUTH",
    "u AND COLD SWEATvVOMITINGkPARTY HORN AND PARTY HATlEEKING EYElLEADING EYESkROLLING EYES",
    "kSTUCK-OUT TONGUEzb AND TIGHTLY-CLOSED EYESzgWINKING EYEkTEARS OF JOYlHERMOMETER",
    "kUNEVEN EYES AND WAVY MOUTHjOUT MOUTHdSIMILE SIGNdTORYcIRYcLAFELdLEN LEAF",
    "eING DIAGONAL CROSSING NORTH EAST ARROWzbRISING DIAGONALrIN WHITE CIRCLE IN BLACK SQUARE",
    "cMILYcRSI SYMBOLcTHER CHRISTMAScX ICONeMACHINEbEARFUL FACEdTHERcMALE SIGN",
    "dININE ORDINAL INDICATORcNCERcRRIS WHEELeYbFbIELD HOCKEY STICK AND BALLcGURE DASHhSPACE",
    "cLE CABINETfFOLDERfSEPARATORdM FRAMESfPROJECTORcNITE PART INTEGRALcREe ENGINEgXTINGUISHER",
    "eCRACKEReWORK SPARKLERiSdST PLACE MEDALgQUARTER MOONs SYMBOLtWITH FACEgSTRONG ISOLATEcSH",
    "e CAKE WITH SWIRL DESIGNeEYEeING POLE AND FISHdTED HAND SIGNcVE DOT MARKjPUNCTUATION",
    "bLAG IN HOLEdMINGOdT SHOEeBREADeNESScEUR-DE-LISdXED BICEPScOPPY DISKdRAL HEARTdWER",
    "g PLAYING CARDSiUNCTUATION MARKcUSHED FACEcYdING DISChENVELOPEhSAUCERbOGdGYcLDERcNDUEcOT",
    "ePRINTScR ALLdCESdK AND KNIFEo WITH PLATEeED PARAGRAPHOSeINGdM FEEDdTUNE COOKIEcUNTAIN",
    "dR BALLOON-SPOKED ASTERISKfCLUB-SPOKED ASTERISKgORNER ARROWS CIRCLING ANTICLOCKWISEfDOT MARK",
    "jPUNCTUATIONfLEAF CLOVERfPOINTED BLACK STARfTEARDROP-SPOKED ASTERISKe-PER-EM SPACEeTH ROOT",
    "cX FACEbRACTION NUMERATOR ONEjSLASHdME WITH AN XlPICTURElTILEScEEZING FACEdNCH FRANC SIGN",
    "jIEScIED SHRIMPcOG FACEdNT-FACING BABY CHICKgTILTED SHADOWED WHITE RIGHTWARDS ARROWdWN",
    "fING FACE WITH OPEN MOUTHbScIbUEL PUMPcLL BLOCKfMOON SYMBOLkWITH FACEfOUTER JOINfSTOP",
    "eWIDTH AMPERSANDlPOSTROPHElSTERISKkBROKEN BARkCENT SIGNlIRCUMFLEX ACCENTlOLONmMMAoERCIAL AT",
    "kDIGIT EIGHTqFIVErOURqNINEqONEqSEVENrIXqTHREErWOqZEROlOLLAR SIGNkEQUALS SIGNlXCLAMATION MARK",
    "kFULL STOPkGRAVE ACCENTmEATER-THAN SIGNkHYPHEN-MINUSkLATIN CAPITAL LETTER AzgBzgCzgDzgEzgF",
    "zgGzgHzgIzgJzgKzgLzgMzgNzgOzgPzgQzgRzgSzgTzgUzgVzgWzgXzgYzgZqSMALL LETTER AzeBzeCzeDzeEzeF",
    "zeGzeHzeIzeJzeKzeLzeMzeNzeOzePzeQzeRzeSzeTzeUzeVzeWzeXzeYzeZlEFT CURLY BRACKETpPARENTHESIS",
    "pSQUARE BRACKETpWHITE PARENTHESISmSS-THAN SIGNlOW LINEkMACRONkNOT SIGNlUMBER SIGN",
    "kPERCENT SIGNlLUS SIGNlOUND SIGNkQUESTION MARKmOTATION MARKkREVERSE SOLIDUS",
    "lIGHT CURLY BRACKETqPARENTHESISqSQUARE BRACKETqWHITE PARENTHESISkSEMICOLONlOLIDUSkTILDE",
    "kVERTICAL LINEkWON SIGNkYEN SIGNcNCTION APPLICATIONdERAL URNcSEbVS1d2d3d4aGAME DIEcRLICbEAR",
    "e WITH HANDLESjOUT HUBcM STONEdINIcNIEcOMETRIC PROPORTIONjALLY EQUAL TOrIVALENT TO",
    "dRGIAN CAPITAL LETTER AENzNyBANyCANzHARzbINzILyDONyENyGANzHANyHAEzbRzEzIEzOEyINyJHANzILyKAN",
    "zHARyLASyMANyNARyONyPARzHARyQARyRAEySANzHINyTANzbRyUNyVINyWEyXANyYNyZENzHARjLETTER AENrINrN",
    "qBANqCANrHARsINrILqDONqELIFIrNqFIqGANrHANqHAEsRtD SIGNrErIErOEqINqJHANrILqKANrHAR",
    "qLABIAL SIGNsSqMANqNARqONqPARrHARqQARqRAEqSANrHINqTANsRrURNED GANqUNqVINqWEqXANqYNqZENrHAR",
    "jMTAVRULI CAPITAL LETTER AENzjINzjNziBANziCANzjHARzkINzjILziDONziELIFIzjNziFIziGANzjHANziHAE",
    "zkRzlD SIGNzjEzjIEzjOEziINziJHANzjILziKANzjHARziLABIAL SIGNzkSziMANziNARziONziPARzjHARziQAR",
    "ziRAEziSANzjHINziTANzkRzjURNED GANziUNziVINziWEziXANziYNziZENzjHARjPARAGRAPH SEPARATOR",
    "jSMALL LETTER AENxNwBANwCANxHARyINxILwDONwENwGANxHANwHAEyRxExIExOEwINwJHANxILwKANxHARwLAS",
    "wMANwNARwONwPARxHARwQARwRAEwSANxHINwTANyRwUNwVINwWEwXANwYNwZENxHARcRMAN PENNY SIGNcTA MARK",
    "bHOSTbIMEL SYMBOLcRAFFE FACEdLeS SYMBOLbLAGOLITIC CAPITAL LETTER AZUzbBIG YUSzcUKY",
    "zbCAUDATE CHRIVIzcHRIVIzbDJERVIzcOBROzcZELOzbFITAzcRITUzbGLAGOLIzbHERUzbIzcNITIAL IZHE",
    "zcOTATED BIG YUSzjSMALL YUSzcZHEzeITSAzbKAKOzbLATINATE MYSLITEzcJUDIJEzbMYSLITEzbNASHIzbONU",
    "zcTUzbPEzcOKOJIzbRITSIzbSHAzdTAzfPICzcLOVOzcMALL YUSzk WITH TAILzcPIDERY HAzbTROKUTASTI A",
    "zcSIzcVRIDOzbUKUzbVEDEzbYATIzcERIzeUzdSTUzcOzcUzbZEMLJAzcHIVETElSMALL LETTER AZUyBIG YUSzUKY",
    "yCAUDATE CHRIVIzHRIVIyDJERVIzOBROzZELOyFITAzRITUyGLAGOLIyHERUyIzNITIAL IZHEzOTATED BIG YUS",
    "zhSMALL YUSzZHEzcITSAyKAKOyLATINATE MYSLITEzJUDIJEyMYSLITEyNASHIyONUzTUyPEzOKOJIyRITSIySHA",
    "zbTAzdPICzLOVOzMALL YUSzi WITH TAILzPIDERY HAyTROKUTASTI AzSIzVRIDOyUKUyVEDEyYATIzERIzcU",
    "zbSTUzOzUyZEMLJAzHIVETEdSS OF MILKcEICH STARKcOBE WITH MERIDIANSdVESdWING STARbOAL NETdT",
    "cGGLEScLFERcRILLAcTHIC LETTER AHSApIHVUSoBAIRKANoDAGSoEISoFAIHUoGIBAoHAGLpWAIRoIGGWSpUJAoJER",
    "oKUSMAoLAGUSoMANNAoNAUTHSpINE HUNDREDsTYoOTHALoPAIRTHRAoQAIRTHRAoRAIDAoSAUILoTEIWSpHIUTH",
    "oURUSoWINJAbRADUATION CAPdNTHA AU LENGTH MARKiLETTER AqAqIqUpBAqHApCAqHApDAqDArHAqHApEEpGA",
    "qHApHApIqIpJAqHApKAqHApLAqLApMApNAqGAqNAqYApOOpPAqHApRApSAqHAqSApTAqHAqTArHApUqUpVA",
    "qEDIC ANUSVARAvDOUBLE ANUSVARAqOCALIC LyLxRyRpYAiOMiSIGN ANUSVARAoVAGRAHAnCANDRABINDU",
    "oOMBINING ANUSVARA ABOVEnNUKTAnPLUTAnVIRAMApSARGAiVOWEL SIGN AAuIuUtEEtIuItOOtUuUtVOCALIC L",
    "zdLzcRzdRdPESdVE ACCENTcEATER-THAN ABOVE DOUBLE-LINE EQUAL ABOVE LESS-THAN",
    "tLESS-THAN ABOVE DOUBLE-LINE EQUALtRIGHTWARDS ARROWtSIMILAR ABOVE LESS-THANzcOR EQUAL",
    "uLANTED EQUAL ABOVE LESS-THAN ABOVE SLANTED EQUALoND NOT APPROXIMATE",
    "rSINGLE-LINE NOT EQUAL TOnBESIDE LESS-THANoUT NOT EQUAL TOyIVALENT TOnCLOSED BY CURVE",
    "zd ABOVE SLANTED EQUALnEQUAL TO OR LESS-THANnOR APPROXIMATEqEQUAL TOtIVALENT TOqLESS-THAN",
    "qSLANTED EQUAL TOzh WITH DOT ABOVEzw LEFTzrINSIDEoVER EQUAL TOrLAPPING LESS-THANnSIGN",
    "nWITH CIRCLE INSIDEsDOTsQUESTION MARK ABOVEdEK ACROPHONIC ATTIC FIFTYzd STATERSzeTALENTS",
    "zfHOUSANDzm STATERSzVEzc HUNDREDzk STATERSzlTALENTSzdSTATERSzdTALENTSzeHOUSANDzl TALENTS",
    "xONE DRACHMAzcHALFzdUNDRED STATERSzkTALENTSzcQUARTERzcTHOUSAND STATERSzlTALENTSxTEN MNAS",
    "zcSTATERSzcTALENTSzdHOUSAND STATERSrCARYSTIAN FIVE HUNDREDsYRENAIC TWO DRACHMAS",
    "rDELPHIC FIVE MNASrEPIDAUREAN FIVE HUNDREDzdTWOzg DRACHMASrHERAEUM ONE PLETHRON",
    "uMIONIAN FIFTYzdONEzdTENrMESSENIAN TENrNAXIAN FIVE HUNDREDrSTRATIAN FIFTY MNAS",
    "rTHESPIAN FIFTYzdVE HUNDREDzgTHOUSANDzbONEze HUNDREDzfTHOUSANDzbTENzcHIRTYzdREE HUNDREDzcWO",
    "sROEZENIAN FIFTYzi ALTERNATE FORMzfVEzh HUNDREDzdTENzg ALTERNATE FORMhNO TELEIAhROURA SIGN",
    "iTABE SIGNgBETA SYMBOLgCAPITAL DOTTED LUNATE SIGMA SYMBOLoKAI SYMBOLoLETTER ALPHA",
    "zb WITH DASIAzm AND OXIAzv AND PROSGEGRAMMENIzrPERISPOMENIzzd AND PROSGEGRAMMENI",
    "zsROSGEGRAMMENIzrVARIAzw AND PROSGEGRAMMENIzhMACRONzhOXIAzhPROSGEGRAMMENIziSILIzm AND OXIA",
    "zv AND PROSGEGRAMMENIzrPERISPOMENIzzd AND PROSGEGRAMMENIzsROSGEGRAMMENIzrVARIA",
    "zw AND PROSGEGRAMMENIzhTONOSzhVARIAziRACHYwRCHAIC SAMPIvBETAvCHIvDELTAvEPSILONzd WITH DASIA",
    "zo AND OXIAztVARIAzjOXIAzjPSILIzo AND OXIAztVARIAzjTONOSzjVARIAwTAy WITH DASIAzk AND OXIA",
    "zt AND PROSGEGRAMMENIzpPERISPOMENIzzb AND PROSGEGRAMMENIzqROSGEGRAMMENIzpVARIA",
    "zu AND PROSGEGRAMMENIzfOXIAzfPROSGEGRAMMENIzgSILIzk AND OXIAzt AND PROSGEGRAMMENI",
    "zpPERISPOMENIzzb AND PROSGEGRAMMENIzqROSGEGRAMMENIzpVARIAzu AND PROSGEGRAMMENIzfTONOSzfVARIA",
    "vGAMMAvHETAvIOTAz WITH DASIAzl AND OXIAzqPERISPOMENIzqVARIAzhIALYTIKAzgMACRONzgOXIAzgPSILI",
    "zl AND OXIAzqPERISPOMENIzqVARIAzgTONOSzgVARIAzhRACHYvKAPPAvLAMDAvMUvNUvOMEGAzb WITH DASIA",
    "zm AND OXIAzv AND PROSGEGRAMMENIzrPERISPOMENIzzd AND PROSGEGRAMMENIzsROSGEGRAMMENIzrVARIA",
    "zw AND PROSGEGRAMMENIzhOXIAzhPROSGEGRAMMENIziSILIzm AND OXIAzv AND PROSGEGRAMMENI",
    "zrPERISPOMENIzzd AND PROSGEGRAMMENIzsROSGEGRAMMENIzrVARIAzw AND PROSGEGRAMMENIzhTONOSzhVARIA",
    "xICRONzd WITH DASIAzo AND OXIAztVARIAzjOXIAzjPSILIzo AND OXIAztVARIAzjTONOSzjVARIA",
    "vPAMPHYLIAN DIGAMMAwHIwIwSIvRHOy WITH DASIAvSANwHOwIGMAvTAUwHETAvUPSILONzd WITH DASIA",
    "zo AND OXIAztPERISPOMENIztVARIAzkIALYTIKAzjMACRONzjOXIAzjTONOSzjVARIAzkRACHYvXIvYOTvZETA",
    "pUNATE SIGMA SYMBOLoREVERSED DOTTED LUNATE SIGMA SYMBOLxLUNATE SIGMA SYMBOLoTHETA SYMBOL",
    "gDASIAl AND OXIAqPERISPOMENIqVARIAhIALYTIKA AND OXIAuPERISPOMENIuVARIAqTONOShRACHMA SIGN",
    "gFIVE OBOLS SIGNhOUR OBOLS SIGNgGRAMMA SIGNgINDICTION SIGNiSTRUMENTAL NOTATION SYMBOL-1zl1",
    "zl2zl3zl4zl7zl8zl9zk2zl3zl4zl5zl6zl7zl9zk30zl2zl6zl7zl8zl9zk4zl0zl2zl3zl5zl7zl8zl9zk5zl0zl1",
    "zl2zl3zl4zk7zk8gKAI SYMBOLiPPA SYMBOLhORONIShYATHOS BASE SIGNgLETTER ARCHAIC KOPPAnDIGAMMA",
    "nKOPPAnSAMPIoMALL CAPITAL GAMMAzcLAMDAzcOMEGAzcPIzdSIzcRHOoTIGMAnYOThITRA SIGN",
    "hOWER NUMERAL SIGNhUNATE EPSILON SYMBOLnSIGMA SYMBOLgMETRETES SIGNhUSICAL LEIMMA",
    "gNUMERAL SIGNgOBOL SIGNhNE HALF SIGNt ALTERNATE FORMkQUARTER SIGNhUNKIA SIGNhXIAgPERISPOMENI",
    "hHI SYMBOLhI SYMBOLhROSGEGRAMMENIhSILIl AND OXIAqPERISPOMENIqVARIAgQUESTION MARK",
    "gREVERSED LUNATE EPSILON SYMBOLhHO SYMBOLkWITH STROKE SYMBOLgSINUSOID SIGN",
    "hMALL DOTTED LUNATE SIGMA SYMBOLmLETTER ALPHAy WITH DASIAzk AND OXIAzt AND YPOGEGRAMMENI",
    "zpPERISPOMENIzzb AND YPOGEGRAMMENIzpVARIAzu AND YPOGEGRAMMENIzpYPOGEGRAMMENIzfMACRONzfOXIA",
    "zj AND YPOGEGRAMMENIzfPERISPOMENIzq AND YPOGEGRAMMENIzgSILIzk AND OXIAzt AND YPOGEGRAMMENI",
    "zpPERISPOMENIzzb AND YPOGEGRAMMENIzpVARIAzu AND YPOGEGRAMMENIzpYPOGEGRAMMENIzfTONOSzfVARIA",
    "zk AND YPOGEGRAMMENIzgRACHYzfYPOGEGRAMMENIuRCHAIC KOPPAzcSAMPItBETAtCHItDELTAuIGAMMAtEPSILON",
    "zb WITH DASIAzm AND OXIAzrVARIAzhOXIAzhPSILIzm AND OXIAzrVARIAzhTONOSzhVARIAuTAw WITH DASIA",
    "zi AND OXIAzr AND YPOGEGRAMMENIznPERISPOMENIzy AND YPOGEGRAMMENIznVARIAzs AND YPOGEGRAMMENI",
    "znYPOGEGRAMMENIzdOXIAzh AND YPOGEGRAMMENIzdPERISPOMENIzo AND YPOGEGRAMMENIzeSILIzi AND OXIA",
    "zr AND YPOGEGRAMMENIznPERISPOMENIzy AND YPOGEGRAMMENIznVARIAzs AND YPOGEGRAMMENI",
    "znYPOGEGRAMMENIzdTONOSzdVARIAzi AND YPOGEGRAMMENIzdYPOGEGRAMMENItFINAL SIGMAtGAMMAtHETAtIOTA",
    "x WITH DASIAzj AND OXIAzoPERISPOMENIzoVARIAzfIALYTIKAzn AND OXIAzsPERISPOMENIzsTONOSzsVARIA",
    "zeMACRONzeOXIAzePERISPOMENIzfSILIzj AND OXIAzoPERISPOMENIzoVARIAzeTONOSzeVARIAzfRACHYtKAPPA",
    "uOPPAtLAMDAtMUtNUtOMEGAy WITH DASIAzk AND OXIAzt AND YPOGEGRAMMENIzpPERISPOMENI",
    "zzb AND YPOGEGRAMMENIzpVARIAzu AND YPOGEGRAMMENIzpYPOGEGRAMMENIzfOXIAzj AND YPOGEGRAMMENI",
    "zfPERISPOMENIzq AND YPOGEGRAMMENIzgSILIzk AND OXIAzt AND YPOGEGRAMMENIzpPERISPOMENI",
    "zzb AND YPOGEGRAMMENIzpVARIAzu AND YPOGEGRAMMENIzpYPOGEGRAMMENIzfTONOSzfVARIA",
    "zk AND YPOGEGRAMMENIzfYPOGEGRAMMENIvICRONzb WITH DASIAzm AND OXIAzrVARIAzhOXIAzhPSILI",
    "zm AND OXIAzrVARIAzhTONOSzhVARIAtPAMPHYLIAN DIGAMMAuHIuIuSItRHOw WITH DASIAzdPSILItSAMPIvN",
    "uHOuIGMAuTIGMAtTAUuHETAtUPSILONzb WITH DASIAzm AND OXIAzrPERISPOMENIzrVARIAziIALYTIKA",
    "zq AND OXIAzvPERISPOMENIzvTONOSzvVARIAzhMACRONzhOXIAzhPERISPOMENIziSILIzm AND OXIA",
    "zrPERISPOMENIzrVARIAzhTONOSzhVARIAziRACHYtXItZETAmREVERSED DOTTED LUNATE SIGMA SYMBOL",
    "vLUNATE SIGMA SYMBOLhUBSCRIPT SMALL LETTER BETAzeCHIzeGAMMAzePHIzeRHOhYMBOL TAU RHO",
    "gTALENT SIGNhHETA SYMBOLiREE OBOLS SIGNmQUARTERS SIGNhONOShRYBLION BASE SIGNhWO OBOLS SIGN",
    "kTHIRDS SIGNgUPSILON WITH ACUTE AND HOOK SYMBOLtDIAERESIS AND HOOK SYMBOLtHOOK SYMBOLgVARIA",
    "hOCAL NOTATION SYMBOL-1ze0ze1ze2ze3ze4ze5ze6ze7ze8ze9zd2ze0ze1ze2ze3ze4zd3zd4zd5ze0ze1ze2ze3",
    "ze4zd6zd7zd8zd9gXESTES SIGNgYEAR SIGNhPOGEGRAMMENIgZERO SIGNeN APPLEgBOOKgHEARTgSALAD",
    "cIMACING FACEdNNING CAT FACE WITH SMILING EYESjFACEn WITH ONE LARGE AND ONE SMALL EYE",
    "tSMILING EYESuTAR EYEScOUP MARKgSEPARATORdWING HEARTbSbUARANI SIGNeDSMANcIDE DOGdTAR",
    "cJARATI ABBREVIATION SIGNjDIGIT EIGHTpFIVEqOURpNINEpONEpSEVENqIXpTHREEqWOpZEROjLETTER ArArI",
    "rUqBArHAqCArHAqDArDAsHArHAqEqGArHAqHAqIrIqJArHAqKArHAqLArLAqMAqNArGArNArYAqOqPArHAqRAqSArHA",
    "rSAqTArHArTAsHAqUrUqVArOCALIC LzLyRzRqYAqZHAjOMjRUPEE SIGNjSIGN ANUSVARApVAGRAHAoCANDRABINDU",
    "pIRCLE NUKTA ABOVEoMADDAHoNUKTAoSHADDApUKUNoTHREE-DOT NUKTA ABOVEpWO-CIRCLE NUKTA ABOVE",
    "oVIRAMAqSARGAjVOWEL CANDRA EwOpSIGN AAvIvUuCANDRA EzcOuEuIvIuOuUvUuVOCALIC LzeLzdRzeR",
    "cNJALA GONDI DIGIT EIGHTuFIVEvOURuNINEuONEuSEVENvIXuTHREEvWOuZEROoLETTER AwAwIwUvBAwHAvCAwHA",
    "vDAwDAxHAwHAvEEvGAwHAvHAvIwIvJAwHAvKAwHAvLAwLAvMAvNAwGAvOOvPAwHAvRAvSAvTAwHAwTAxHAvUwUvVAvYA",
    "oOMoSIGN ANUSVARAtVISARGAoVIRAMApOWEL SIGN AAzbIzbUzEEzIzbIzOOzUzbUcRMUKHI ABBREVIATION SIGN",
    "kDDAKjDIGIT EIGHTpFIVEqOURpNINEpONEpSEVENqIXpTHREEqWOpZEROjEK ONKARjIRIjLETTER ArArIrUqBArHA",
    "qCArHAqDArDAsHArHAqEEqFAqGArHAsHAqHAqIrIqJArHAqKArHAsHAqLArLAqMAqNArGArNArYAqOOqPArHAqRArRA",
    "qSArHAqTArHArTAsHAqUrUqVAqYAqZAjSIGN ADAK BINDIoBINDIoNUKTAoUDAAToVIRAMAqSARGAoYAKASHjTIPPI",
    "jURAjVOWEL SIGN AAvIvUuEEuIvIuOOuUvUaHADEScIR SPACEeCUTcLFWIDTH BLACK SQUAREkDOWNWARDS ARROW",
    "kFORMS LIGHT VERTICALkHANGUL FILLERrLETTER AzEyCHIEUCHzIEUCyEzOzUyHIEUHyIzEUNGyKHIEUKHzIYEOK",
    "zf-SIOSyMIEUMyNIEUNze-CIEUCzfHIEUHyOzEyPHIEUPHzIEUPze-SIOSyRIEULze-HIEUHzfKIYEOKzfMIEUM",
    "zfPHIEUPHzgIEUPzfSIOSzfTHIEUTHySIOSzSANGCIEUCzeKIYEOKzePIEUPzeSIOSzeTIKEUTyTHIEUTHzIKEUTyU",
    "yWAzbEzEzbOzIyYAzbEzEzbOzIzOzUkIDEOGRAPHIC COMMAwFULL STOPkKATAKANA LETTER AzbEzbHAzcEzcIzcO",
    "zcUzbIzbKAzcEzcIzcOzcUzbMAzcEzcIzcOzcUzbNzcAzcEzcIzcOzcUzbOzbRAzcEzcIzcOzcUzbSAzcEzcI",
    "zcMALL AzhEzhIzhOzhTUzhUzhYAziOziUzcOzcUzbTAzcEzcIzcOzcUzbUzbWAzcOzbYAzcOzcUtMIDDLE DOT",
    "tSEMI-VOICED SOUND MARKtVOICED SOUND MARKs-HIRAGANA PROLONGED SOUND MARKkLEFT CORNER BRACKET",
    "oWARDS ARROWkRIGHT CORNER BRACKETpWARDS ARROWkUPWARDS ARROWkWHITE CIRCLEcMBURGERdMER",
    "g AND PICKlSICKLElWRENCHdSAeTER FACEcND WITH INDEX AND MIDDLE FINGERS CROSSED",
    "qFINGER AND THUMB CROSSEDeBAGgLLeSHAKEdGUL CHOSEONG CEONGCHIEUMCHIEUCHzdIEUCzcSIOS",
    "zdSANGCIEUCzhSIOSrHIEUCHx-HIEUHyKHIEUKHtTUEUMCHIEUCHzIEUCySIOSzSANGCIEUCzeSIOSrIEUCv-IEUNG",
    "qFILLERqHIEUHv-SIOSqIEUNGv-CHIEUCHxIEUCwHIEUHwKIYEOKwMIEUMwPANSIOSxHIEUPHxIEUPwRIEULwSIOS",
    "wTHIEUTHxIKEUTqKAPYEOUNMIEUMyPHIEUPHzIEUPyRIEULySSANGPIEUPrHIEUKHrIYEOKw-TIKEUTqMIEUM",
    "v-KIYEOKwPIEUPwSIOSwTIKEUTqNIEUNv-CIEUCwHIEUHwKIYEOKwPIEUPwSIOSwTIKEUTqPANSIOSrHIEUPHx-HIEUH",
    "yPIEUPrIEUPv-CHIEUCHxIEUCwHIEUHwKHIEUKHxIYEOKwNIEUNwPHIEUPHwSIOSzb-CIEUCzcKIYEOKzcPIEUP",
    "zcTHIEUTHzdIKEUTxSANGSIOSwTHIEUTHxIKEUTqRIEULv-CIEUCwHIEUHwKAPYEOUNPIEUPxHIEUKHxIYEOKwMIEUM",
    "wNIEUNwPIEUPwSIOSxSANGKIYEOKzcPIEUPzcTIKEUTwTIKEUTqSIOSu-CHIEUCHwIEUCvHIEUHvIEUNGvKHIEUKH",
    "wIYEOKvMIEUMvNIEUNvPHIEUPHwIEUPzb-KIYEOKvRIEULvSSANGSIOSvTHIEUTHwIKEUTrSANGCIEUCzb-HIEUH",
    "vHIEUHvIEUNGvKIYEOKvNIEUNvPIEUPvRIEULvSIOSz-PIEUPvTHIEUTHwIKEUTvYEORINHIEUHqTHIEUTHrIKEUT",
    "w-CIEUCxKIYEOKxMIEUMxPIEUPxRIEULxSIOSqYEORINHIEUHsSIEUNGhDOUBLE DOT TONE MARKhFILLER",
    "hJONGSEONG CHIEUCHsIEUCw-PIEUPxSSANGPIEUPrHIEUHw-MIEUMxNIEUNxPIEUPxRIEULrIEUNGw-KHIEUKH",
    "yIYEOKxSSANGKIYEOKrKAPYEOUNMIEUMzPHIEUPHzbIEUPzRIEULsHIEUKHsIYEOKx-CHIEUCHyHIEUHyKHIEUKH",
    "yNIEUNyPIEUPyRIEULySIOSzd-KIYEOKrMIEUMw-CHIEUCHyIEUCxHIEUHxKIYEOKxNIEUNxPANSIOSyIEUPzd-SIOS",
    "xRIEULxSIOSySANGNIEUNzdSIOSrNIEUNw-CHIEUCHyIEUCxHIEUHxKIYEOKxPANSIOSxRIEULxSIOSxTHIEUTH",
    "yIKEUTrPANSIOSy-KAPYEOUNPIEUPzPIEUPsHIEUPHy-PIEUPzSIOSzTHIEUTHsIEUPw-CHIEUCHyIEUCxHIEUH",
    "xMIEUMxPHIEUPHxRIEULzd-PHIEUPHxSIOSzc-TIKEUTxTIKEUTrRIEULw-HIEUHxKAPYEOUNPIEUPyHIEUKHyIYEOK",
    "ze-HIEUHzfSIOSxMIEUMzd-HIEUHzeKIYEOKzeSIOSxNIEUNxPANSIOSyHIEUPHyIEUPzd-HIEUHzePHIEUPHzeSIOS",
    "zeTIKEUTxSIOSySANGKIYEOKzdSIOSxTHIEUTHyIKEUTze-HIEUHxYEORINHIEUHzj-HIEUHzSIEUNGrSIOS",
    "v-CHIEUCHxIEUCwHIEUHwKAPYEOUNPIEUPxIYEOKwMIEUMwPANSIOSxIEUPwRIEULwTHIEUTHxIKEUTsSANGCIEUC",
    "wIEUNGwKIYEOKwMIEUMwNIEUNwPIEUPwRIEULzc-KHIEUKHwSIOSzb-KIYEOKzcTIKEUTwTIKEUTzd-PIEUP",
    "wYESIEUNGrTHIEUTHsIKEUTx-CHIEUCHzIEUCyKIYEOKyPIEUPyRIEULySIOSzd-KIYEOKyTHIEUTHrYEORINHIEUH",
    "tSIEUNGz-HIEUHzbKHIEUKHzcIYEOKzbMIEUMzbPANSIOSzbSIOSzcSANGKIYEOKiUNGSEONG As-EUtOtUsEsRAEA",
    "w-AxEyOxIxUrEsOt-EUuOuUsUt-AuEvOvUuOuUrFILLERrIs-AuRAEAtEUtItOu-ItUtYAv-OvEuEvOuOuUrOs-EuOtO",
    "u-ItUtYAvEuEvOsErSSANGARAEArUs-AuEtEO-EUtI-ItUtYEvOrWAtEsEtOsIrYAt-OuUuYOtEsEtOu-OvUvYAsIt-U",
    "sOt-AvEuEOuIuOuYAwEvEOsUt-AvEuEvOuIuOuUuYEwOhLETTER ApEpRAEAtEoCHIEUCHpIEUCoEpOpUoHIEUHoI",
    "pEUNGoKAPYEOUNMIEUMwPHIEUPHxIEUPwSSANGPIEUPpHIEUKHpIYEOKu-SIOSoMIEUMt-PANSIOSvIEUPuSIOS",
    "oNIEUNt-CIEUCuHIEUHuPANSIOSuSIOSuTIKEUToOpEoPANSIOSpHIEUPHpIEUPt-CIEUCuKIYEOKuSIOSy-KIYEOK",
    "zTIKEUTuTHIEUTHvIKEUToRIEULt-HIEUHuKIYEOKzb-SIOSuMIEUMuPANSIOSvHIEUPHvIEUPz-SIOSuSIOS",
    "uTHIEUTHvIKEUTuYEORINHIEUHoSIOSs-CIEUCtKIYEOKtNIEUNtPIEUPtTIKEUTpSANGCIEUCtHIEUHtIEUNG",
    "tKIYEOKtNIEUNtPIEUPtSIOStTIKEUToTHIEUTHpIKEUToUoWAqEpEqOpIoYAqEpEqOrRINHIEUHqSIEUNGw-PANSIOS",
    "xSIOSpIpOq-IrYAtEpUq-IrYEtOhSINGLE DOT TONE MARKeZHOU NUMERAL EIGHTrFIVEsOURrNINErONErSEVEN",
    "sIXrTENsHIRTYtREEsWENTYtOdIFI ROHINGYA DIGIT EIGHTwFIVExOURwNINEwONEwSEVENxIXwTHREExWOwZERO",
    "qLETTER AxBAxCAxDAyDAxFAxGAxHAxJAxKAyHAyINNA WAzeYAxLAxMAxNAyGAyYAxPAxRAyRAxSAyHAxTAyTAxVA",
    "xWAxYAxZAqMARK NA KHONNAvSAKINqSIGN HARBAHAYvTAHALAxNAxSSIqVOWEL AwEwIwOwUdUNOO LETTER ApBA",
    "pDApGApHApIpKApLApMApNAqGApPApRApSApTApUpWApYAiSIGN PAMUDPODiVOWEL SIGN ItU",
    "cPPY PERSON RAISING ONE HANDcRD DISKcTCHING CHICKdRAN LETTER ALEPHpYNoBETHoDALETH-RESHoGIMEL",
    "oHEqTHoKAPHoLAMEDHoMEMoNUNoPEoQOPHoSADHEqMEKHpHINoTAWpETHoWAWoYODHoZAYNhNUMBER FIVEoONE",
    "r HUNDREDoTENpWENTYbEADPHONEeSTONEj GRAVEYARD SYMBOLdR-NO-EVIL MONKEYeT DECORATIONgHANDS",
    "gWITH ARROWlRIBBONlTIP ON THE LEFTdVY AMPERSAND ORNAMENThRROW SHAFT WIDTH ONEzc HALFzdTHIRD",
    "yTWO THIRDShSTERISKgBALLOT XhLACK CURVED DOWNWARDS AND RIGHTWARDS ARROW",
    "tUPWARDS AND RIGHTWARDS ARROWmHEARTl-FEATHERED NORTH EAST ARROWwRIGHTWARDS ARROW",
    "wSOUTH EAST ARROWgCHECK MARKjVRON SNOWFLAKEhIRCLEm WITH CIRCLE INSIDE",
    "sSTROKE AND TWO DOTS ABOVEmD SALTIREhONCAVE-POINTED BLACK RIGHTWARDS ARROW",
    "gDASHED TRIANGLE-HEADED RIGHTWARDS ARROWhIVISION SIGNhOLLAR SIGN",
    "iUBLE COMMA QUOTATION MARK ORNAMENTnTURNED COMMA QUOTATION MARK ORNAMENT",
    "iWNWARDS ARROW WITH EQUILATERAL ARROWHEADzcLARGE EQUILATERAL ARROWHEAD",
    "gEIGHT POINTED BLACK STARuPINWHEEL STARuRECTILINEAR BLACK STARmSPOKED ASTERISK",
    "mTEARDROP-SPOKED PROPELLER ASTERISKhQUALS SIGNhXCLAMATION MARK ORNAMENTxSYMBOL",
    "gFIVE POINTED BLACK STARlSPOKED ASTERISKhOUR BALLOON-SPOKED ASTERISKgGREEK CROSS",
    "gHEART EXCLAMATION MARK ORNAMENThORIZONTAL FILLgINTERROBANG ORNAMENTgLARGE CIRCLEiTIN CROSS",
    "hEFT-POINTING ANGLE BRACKET ORNAMENTzbQUOTATION MARK ORNAMENT",
    "kWARDS ARROW WITH EQUILATERAL ARROWHEADzcLARGE EQUILATERAL ARROWHEAD",
    "hIGATURE OPEN ET ORNAMENThOW DOUBLE COMMA QUOTATION MARK ORNAMENT",
    "kSINGLE COMMA QUOTATION MARK ORNAMENTjER RIGHT-SHADOWED WHITE RIGHTWARDS ARROWgMINUS SIGN",
    "hULTIPLICATION XgNORTH EAST ARROWrPOINTING BUDzbVINE LEAFmWEST POINTING BUDzbVINE LEAF",
    "gOPEN CENTRE CROSShUTLINED BLACK STARhVAL WITH OVAL INSIDEgPLUS SIGN",
    "gRIGHT-POINTING ANGLE BRACKET ORNAMENTzcQUOTATION MARK ORNAMENTlWARDS ARROW",
    "w WITH EQUILATERAL ARROWHEADzdLARGE EQUILATERAL ARROWHEADhOUND-TIPPED RIGHTWARDS ARROW",
    "gSALTIREiNS-SERIF INTERROBANG ORNAMENThCRIPT LIGATURE ET ORNAMENT",
    "hINGLE COMMA QUOTATION MARK ORNAMENTnTURNED COMMA QUOTATION MARK ORNAMENT",
    "iX POINTED BLACK STARkSPOKED ASTERISKhOUTH EAST ARROWrPOINTING BUDzbVINE LEAF",
    "mWEST POINTING BUDzbVINE LEAFhPARKLEgTEARDROP-SHANKED RIGHTWARDS ARROWqPOKED ASTERISK",
    "wPINWHEEL ASTERISKhRIANGLE-HEADED RIGHTWARDS ARROWhWELVE POINTED BLACK STARvPINWHEEL STAR",
    "gUPPER RIGHT-SHADOWED WHITE RIGHTWARDS ARROWiWARDS ARROW WITH EQUILATERAL ARROWHEAD",
    "zLARGE EQUILATERAL ARROWHEADgVERTICAL BARgWEDGE-TAILED RIGHTWARDS ARROWhHITE CIRCLE",
    "mDOWN-POINTING TRIANGLEmSQUAREhIDE-HEADED RIGHTWARDS ARROWcBREW ACCENT ATNAH HAFUKHoDARGA",
    "pEHIoETNAHTAoGERESHu MUQDAMrSHAYIMoILUYoMAHAPAKHpERKHAu KEFULApUNAHoOLEoPASHTAqZERoQADMA",
    "qRNEY PARAoREVIAoSEGOLpHALSHELEToTELISHA GEDOLAwQETANAqVIRpIPEHAoYERAH BEN YOMOqTIV",
    "oZAQEF GADOLuQATANqRQApINORhLETTER ALEFs WITH MAPIQyPATAHyQAMATSqTERNATIVE AYINzbPLUS SIGN",
    "pYINoBETr WITH DAGESHxRAFEoDALETt WITH DAGESHoFINAL KAFx WITH DAGESHuMEMuNUNuPEw WITH DAGESH",
    "uTSADIoGIMELt WITH DAGESHoHEq WITH MAPIQqToKAFr WITH DAGESHxRAFEoLAMEDt WITH DAGESHoMEM",
    "r WITH DAGESHoNUNr WITH DAGESHoPEq WITH DAGESHwRAFEoQOFr WITH DAGESHoRESHs WITH DAGESH",
    "oSAMEKHu WITH DAGESHpHINs WITH DAGESHzf AND SHIN DOTzlIN DOTySHIN DOTzIN DOToTAV",
    "r WITH DAGESHpETr WITH DAGESHpSADIt WITH DAGESHoVAVr WITH DAGESHxHOLAMoWIDE ALEFtDALET",
    "tFINAL MEMtHEtKAFtLAMEDtRESHtTAVoYODr WITH DAGESHxHIRIQoZAYINt WITH DAGESH",
    "iIGATURE ALEF LAMEDqYIDDISH DOUBLE VAVzgYODyVAV YODyYOD YOD PATAHhMARK LOWER DOT",
    "mMASORA CIRCLEmUPPER DOThPOINT DAGESH OR MAPIQnHATAF PATAHtQAMATStSEGOLoIRIQoOLAM",
    "s HASER FOR VAVnJUDEO-SPANISH VARIKAnMETEGnPATAHnQAMATSt QATANoUBUTSnRAFEnSEGOLoHEVApIN DOT",
    "oIN DOTnTSEREiUNCTUATION GERESHwSHAYIMtMAQAFtNUN HAFUKHAtPASEQtSOF PASUQhYOD TRIANGLEcDGEHOG",
    "cLICOPTERdLSCHREIBER PAUSE SYMBOLdM SYMBOLeET WITH WHITE CROSScNTAIGANA LETTER A-1u2u3uWO",
    "sE-1u2u3u4u5u6sHA-1w0w1v2v3v4v5v6v7v8v9tE-1v2v3v4v5v6v7tI-1v2v3v4v5v6v7tO-1v2v3v4v5v6v7v8",
    "tU-1v2v3sI-1u2u3u4sKA-1w0w1v2v3v4v5v6v7v8v9vKEtE-1v2v3v4v5v6tI-1v2v3v4v5v6v7v8tO-1v2v3vKI",
    "tU-1v2v3v4v5v6v7sMA-1v2v3v4v5v6v7tE-1v2vMAtI-1v2v3v4v5v6v7tO-1v2v3v4v5v6tU-1v2v3v4sN-MU-MO-1",
    "zb2tA-1v2v3v4v5v6v7v8v9tE-1v2v3v4v5v6vKOtI-1v2v3v4v5v6v7vTEtO-1v2v3v4v5tU-1v2v3sO-1u2u3sRA-1",
    "v2v3v4tE-1v2v3v4tI-1v2v3v4v5v6v7tO-1v2v3v4v5v6tU-1v2v3v4v5v6sSA-1v2v3v4v5v6v7v8tE-1v2v3v4v5",
    "tI-1v2v3v4v5v6tO-1v2v3v4v5v6v7tU-1v2v3v4v5v6v7v8sTA-1v2v3v4tE-1v2v3v4v5v6v7v8v9tI-1v2v3v4v5",
    "v6v7tO-1v2v3v4v5v6vRAtU-1v2v3v4vTOsU-1u2u3u4u5sWA-1v2v3v4v5tE-1v2v3v4tI-1v2v3v4v5tO-1v2v3v4",
    "v5v6v7sYA-1v2v3v4v5vYOtO-1v2v3v4v5v6tU-1v2v3v4cRBdMITIAN CONJUGATE MATRIX",
    "cXAGRAM FOR ABUNDANCEoFTER COMPLETIONoPPROACHnBEFORE COMPLETIONoITING THROUGHoREAKTHROUGH",
    "nCOMING TO MEETpNFLICTqTEMPLATIONnDARKENING OF THE LIGHToECREASEpLIVERANCEpVELOPMENT",
    "oIFFICULTY AT THE BEGINNINGpSPERSIONoURATIONnENTHUSIASMnFELLOWSHIPoOLLOWING",
    "nGATHERING TOGETHERoRACEpEAT POSSESSIONvWERuREPONDERANCEtTAMINGnHOLDING TOGETHERnINCREASE",
    "pFLUENCEpNER TRUTHqOCENCEnLIMITATIONnMODESTYpUTH CORNERSnOBSTRUCTIONoPPOSITIONqRESSIONnPEACE",
    "oROGRESSoUSHING UPWARDnRETREATqURNpVOLUTIONnSMALL PREPONDERANCEtTAMINGoPLITTING APART",
    "oTANDSTILLnTHE ABYSMAL WATERsRMYtOUSING THUNDERrCAULDRONsLINGING FIREsREATIVE HEAVENrFAMILY",
    "rGENTLE WINDrJOYOUS LAKErKEEPING STILL MOUNTAINrMARRYING MAIDENrRECEPTIVE EARTHrWANDERERsELL",
    "oREADINGnWAITINGoORK ON THE DECAYEDnYOUTHFUL FOLLYbIBISCUScGH BRIGHTNESS SYMBOLfOCTET PRESET",
    "fVOLTAGE SIGNe-HEELED SHOEfSPEED TRAINq WITH BULLET NOSEcKING BOOTcNDU TEMPLEcPPOPOTAMUS",
    "cRAGANA DIGRAPH YORIjITERATION MARKjLETTER ArRCHAIC WUyYEqBArErIrOrUqDArErIrOrUqEqGArErIrOrU",
    "qHArErIrOrUqIqKArErIrOrUqMArErIrOrUqNrArErIrOrUqOqPArErIrOrUqRArErIrOrUqSArErIrMALL AwEwIwKA",
    "xEwOwTUwUwWAxExIxOwYAxOxUrOrUqTArErIrOrUqUqVUqWArErIrOqYArOrUqZArErIrOrU",
    "jVOICED ITERATION MARKcSTORIC SITEbOCHOcLEdLOW QUILT SQUARE ORNAMENTzd IN BLACK SQUARE",
    "cMOTHETICcNEY POTfBEEcOKcPcRIZONTAL BARmLACK HEXAGONrOCTAGONlELLIPSISlLINE EXTENSION",
    "lMALE WITH STROKE SIGNlONE EIGHTH BLOCK-1358zd2zd3zd4zd5zd6zd7lSCAN LINE-1v3v7v9lTAB KEY",
    "oULATIONv SETwWITH JUSTIFICATIONmRAFFIC LIGHTdSEf FACEgRACINGcSPITALcT BEVERAGEeDOGePEPPER",
    "eSPRINGSdELcURGLASSj WITH FLOWING SANDdSEf BUILDINGoSgWITH GARDENbRYVNIA SIGNbTcJcS",
    "bUGGING FACEcNDRED POINTS SYMBOLcSHED FACEcTbYGIEAcPHENg BULLEThWITH DIAERESISg-MINUS",
    "gATION POINTdODIASTOLEcSTERESIS SYMBOLaI LOVE YOU HAND SIGNbCE CREAMfUBE",
    "eHOCKEY STICK AND PUCKeSKATEbDENTICAL TOm AND SLANTED PARALLELkWITH DOT ABOVEgFICATION CARD",
    "dOGRAPHIC ANNOTATION BOTTOM MARKxEARTH MARKxFIRST MARKyOUR MARKzcTH MARKxHEAVEN MARK",
    "xLINKING MARKxMAN MARKyIDDLE MARKxONE MARKxREVERSE MARKxSECOND MARKxTHIRD MARKzREE MARK",
    "yOP MARKyWO MARKmCLOSING MARKnOMMAmDEPARTING TONE MARKoSCRIPTION CHARACTER ABOVE TO BELOW",
    "zsMIDDLE AND BELOWzjFULL SURROUNDzjLEFT TO MIDDLE AND RIGHTzrRIGHTzjOVERLAID",
    "zjSURROUND FROM ABOVEzxBELOWzxLEFTzyOWER LEFTzxUPPER LEFTzzeRIGHTmENTERING TONE MARK",
    "mFULL STOPmHALF FILL SPACEmITERATION MARKmLEVEL TONE MARKmNUMBER ZEROmRISING TONE MARKmSPACE",
    "mTALLY MARK FIVEyOURxONExTHREEyWOnELEGRAPH LINE FEED SEPARATOR SYMBOLwSYMBOL FOR APRIL",
    "zjUGUSTziDAY EIGHTzrEENznLEVENzmFIFTEENzoVEznOURzqTEENzmNINEzqTEENzmONEzmSEVENzrTEENznIX",
    "zpTEENzmTENznHIRTEENzrYzs-ONEzoREEznWELVEzpNTYzs-EIGHTztFIVEzuOURztNINEztONEztSEVENzuIX",
    "ztTHREEzuWOzoOzjECEMBERziFEBRUARYziHOUR EIGHTzsEENzoLEVENznFIFTEENzpVEzoOURzrTEENznNINE",
    "zrTEENznONEznSEVENzsTEENzoIXzqTEENznTENzoHIRTEENzpREEzoWELVEzqNTYzt-FOURzuONEzuTHREEzvWOzpO",
    "znZEROziJANUARYzjULYzkNEziMARCHzkYziNOVEMBERziOCTOBERziSEPTEMBERmVARIATION INDICATORbMAGE OF",
    "i OR APPROXIMATELY EQUAL TOcPdERIAL ARAMAIC LETTER ALEPHzYINyBETHyDALETHyGIMELyHEzbTHyKAPH",
    "yLAMEDHyMEMyNUNyPEyQOPHyRESHySADHEzbMEKHzHINyTAWzETHyWAWyYODHyZAYINrNUMBER ONEzc HUNDRED",
    "zdTHOUSANDyTENzc THOUSANDzHREEzWENTYzbOrSECTION SIGNbNBOX TRAYcCOMING ENVELOPE",
    "fPLETE INFINITYdREASE FONT SIZE SYMBOLiS ASfMENTcDdEXf POINTING AT THE VIEWERdIAN RUPEE SIGN",
    "eC SIYAQ ALTERNATE LAKH MARKmFRACTION ONE HALFzQUARTERvTHREE QUARTERSmLAKH MARK",
    "mNUMBER ALTERNATE ONEzeTEN THOUSANDzfWOtEIGHTy HUNDREDzTHOUSANDyYz THOUSANDtFIFTYy THOUSAND",
    "vVEx HUNDREDyTHOUSANDuORTYy THOUSANDvURx HUNDREDyTHOUSANDtKARORyANtLAKHxANtNINEx HUNDRED",
    "yTHOUSANDxTYz THOUSANDtONEw HUNDREDxTHOUSANDtPREFIXED EIGHTzdFIVEzeOURzdNINEzdONEzdSEVENzeIX",
    "zdTHREEzeWOtSEVENy HUNDREDzTHOUSANDyTYzb THOUSANDuIXw HUNDREDxTHOUSANDwTYy THOUSANDtTEN",
    "w THOUSANDuHIRTYz THOUSANDvREEy HUNDREDzTHOUSANDuWENTYz THOUSANDvOw HUNDREDxTHOUSAND",
    "mPLACEHOLDERmRUPEE MARKcFINITYi NEGATED WITH VERTICAL BARdORMATION DESK PERSON",
    "mSEPARATOR FOURwONEwTHREExWOnOURCEcHIBIT ARABIC FORM SHAPINGiSYMMETRIC SWAPPING",
    "cPUT SYMBOL FOR LATIN CAPITAL LETTERSxLETTERSxSMALL LETTERSrNUMBERSrSYMBOLS",
    "cSCRIPTIONAL PAHLAVI LETTER ALEPHzeBETHzeDALETHzeGIMELzeHEzgTHzeKAPHzeLAMEDHzeMEM-QOPHzeNUN",
    "zePEzeSADHEzgMEKHzfHINzeTAWzfETHzeWAW-AYIN-RESHzeYODHzeZAYINwNUMBER FOURzeONEzh HUNDRED",
    "ziTHOUSANDzeTENzfHREEzfWENTYzgOqRTHIAN LETTER ALEPHzgYINzfBETHzfDALETHzfGIMELzfHEzhTHzfKAPH",
    "zfLAMEDHzfMEMzfNUNzfPEzfQOPHzfRESHzfSADHEzhMEKHzgHINzfTAWzgETHzfWAWzfYODHzfZAYINxNUMBER FOUR",
    "zfONEzi HUNDREDzjTHOUSANDzfTENzgHREEzgWENTYzhOdERTION SYMBOLcTEGRALi AROUND A POINT OPERATOR",
    "kVERAGE WITH SLASHjEXTENSIONjWITH DOUBLE STROKEoINTERSECTIONoLEFTWARDS ARROW WITH HOOK",
    "oOVERBARoTIMES SIGNoUNDERBARqIONeRCALATEfIOR PRODUCTfLINEAR ANNOTATION ANCHORxSEPARATOR",
    "xTERMINATORgOCKED FEMALE AND MALE SIGNfROBANGfSECTIONm ABOVE BAR ABOVE UNIONtUNION",
    "nBESIDE AND JOINED WITH INTERSECTIONnWITH DOTsLOGICAL ANDsOVERBARcVERSE BULLETiCHECK MARK",
    "nER BOARD FILLiDOWNWARDS ARROW WITH TIP LEFTWARDSiMEDIUM SHADEiWHITE CIRCLE",
    "fTED EXCLAMATION MARKjINTERROBANGjLAZY SkOW KAVYKAt WITH KAVYKA ABOVEjOHM SIGNjPENTAGRAM",
    "jQUESTION MARKjUNDERTIEdISIBLE PLUSkSEPARATORkTIMESbZAKAYA LANTERNaJACK-O-LANTERN",
    "cPANESE BANK SYMBOLjCASTLEjDOLLSjGOBLINjINDUSTRIAL STANDARD SYMBOLjOGREjPOST OFFICE",
    "jSYMBOL FOR BEGINNERcRcVANESE CONSONANT SIGN CAKRAyKERETyPENGKALjDIGIT EIGHTpFIVEqOURpNINE",
    "pONEpSEVENqIXpTHREEqWOpZEROjLEFT RERENGGANlTTER ArIqBAs MURDAqCAs MURDAqDAs MAHAPRANArDA",
    "t MAHAPRANAqEqGAs MURDAqHAqIr KAWIrIqJAs MAHAPRANAqKAs MURDAtSASAKqLAqMAqNAs MURDArGAt LELET",
    "z RASWADIrYAt MURDAqOqPAs CEREKtMURDAqRAs AGUNGqSAs MAHAPRANAuURDAqTAs MURDArTAt MAHAPRANAqU",
    "qWAqYAjPADA ADEGs ADEGpNDAPoISEN-ISENoLINGSApUHURqNGSIoMADYAoPANGKATpISELEHoTIRTA TUMETES",
    "oWINDUlNGKONnRANGKEPjRIGHT RERENGGANjSIGN CECAKt TELUoLAYARoPANYANGGAoWIGNYAN",
    "jTURNED PADA PISELEHjVOWEL SIGN DIRGA MUREuPEPETuSUKUy MENDUTuTALINGwRUNGvOLONGuWULUy MELIK",
    "bEANSbIGSAW PUZZLE PIECEbOINcYSTICKbUGGLINGcNOcPITERaKAABAcITHI ABBREVIATION SIGNhDANDA",
    "iOUBLE DANDAoSECTION MARKhENUMERATION SIGNhLETTER ApApIpUoBApHAoCApHAoDApDAqDHAqHApHAoEoGA",
    "pHAoHAoIpIoJApHAoKApHAoLAoMAoNApGApNApYAoOoPApHAoRApHAoSApHApSAoTApHApTAqHAoUpUoVAoYA",
    "hNUMBER SIGNs ABOVEhSECTION MARKiIGN ANUSVARAmCANDRABINDUmNUKTAmVIRAMAoSARGAhVOWEL SIGN AAtI",
    "tUsEsItIsOsUtUsVOCALIC RcNGAROOeXI RADICAL AGAINqNDqRRIVEsOWqXEpBADGERrMBOOqEANqIGrRDrTTER",
    "qLACKrOODrUEqOATrDYrLT OF CLOTHrNErWqRANCHrISTLErUSHpCARTrULDRONrVEqHILDqITYqLANsWrIFFrOTHES",
    "qOLORrMPARErRPSErVERrWpDEATHrERqIPPERrSHsTINGUISHrVINATIONqO NOTrGrORrTsTED CLIFFwTENT",
    "rUBLE XrWN BOXqRAGONrUMrYpEARsTHrTqIGHTqMBROIDERYqNCLOSURErTERqVENtINGqYEpFACErNGrTHER",
    "qEATHERqIELDrGHTrRErSHqLUTErYqOOTqRAGRANTrOGqURpGATEqHOSTqOr SLOWLYrLDqRAINsSSpHAIRrLBERD",
    "sF TREE TRUNKrNDqEADsRTrMPqIDING ENCLOSUREqOOKrRNsSEpICEqNCHrSECTpJADErRpKNIFEpLACKrMEqEAF",
    "sTHERrEKrGSqIDrFErNEqONGt STRIDEpMANqEATrLONqILLETrNISTERqOONrRNINGsTARrUNDtTAINsTHpNETqOSE",
    "rTpOLDqNEsSELFqPEN BOXrPOSEpPIGqLOWqOWERqRIVATErOFOUNDpRAINrPrTqEDqICErGHT OPEN BOXrVERqOOF",
    "qUNpSACRIFICIAL WINErLTrYqCHOLARrRIPTqEALrCONDrErLFqHEEPsLLrOOTsRT TAILED BIRDwHREADqICKNESS",
    "rLKqKINqLASHsVErICEqMALLqNOUTqOUNDqPEARsECHrIRITrOONrROUTqQUAREqTANDrEAMsPrONEsPtPINGqUN",
    "qWEETpTABLErLLrNNED LEATHERqENqIGERrLEqONGUErOTHqRACKrEErIPODqURBANsTLEqWOs HANDSpUSEpVALLEY",
    "qILLAGEpWALKt ENCLOSURErTERqEAPONrSTqHEATrITEqINDsEqOMANrRKqRAPrONGpYELLOW",
    "dNADA AI LENGTH MARKiDIGIT EIGHToFIVEpOURoNINEoONEoSEVENpIXoTHREEpWOoZEROiLENGTH MARKkTTER A",
    "qAqIqUpBAqHApCAqHApDAqDArHAqHApEqEpFApGAqHApHApIqIpJAqHApKAqHApLAqLArLApMApNArKAARA POLLUqGA",
    "qNAqYApOqOpPAqHApRAqRApSAqHAqSApTAqHAqTArHApUqUpVAqOCALIC LyLxRyRpYAiSIGN ANUSVARAoVAGRAHA",
    "nCANDRABINDUnJIHVAMULIYAnNUKTAnSIDDHAMoPACING CANDRABINDUnUPADHMANIYAnVIRAMApSARGA",
    "iVOWEL SIGN AAuIuUtEuEtIuItOuOtUuUtVOCALIC LzdLzcRzdRcTAKANA DIGRAPH KOTOjITERATION MARK",
    "jLETTER ArRCHAIC EyWUyYEzIqBArErIrOrUqDArErIrOrUqEqGArErIrOrUqHArErIrOrUqIqKArErIrOrUqMArErI",
    "sNNAN NASALIZED TONE-1zn2zn3zn4zn5zn7zn8xTONE-2zd3zd4zd5zd7zd8rOrUqNrArErIrOrUqOqPArErIrOrU",
    "qRArErIrOrUqSArErIrMALL AwEwHAxExIxOxUwIwKAxExUwMUwNxUwOwRAxExIxOxUwSIxUwTOxUwUwWAxExIxOwYA",
    "xOxUrOrUqTArErIrOrUqUqVArErIrOrUqWArErIrOqYArOrUqZArErIrOrUjMIDDLE DOTjVOICED ITERATION MARK",
    "i-HIRAGANA DOUBLE HYPHENsPROLONGED SOUND MARKsSEMI-VOICED SOUND MARKsVOICED SOUND MARK",
    "cYAH LI DIGIT EIGHTpFIVEqOURpNINEpONEpSEVENqIXpTHREEqWOpZEROjLETTER AqBAqCAqDAqGAqHArTAqIqKA",
    "rHAqLAqMAqNArGArYAqOErOqPArHAqRAqSArHAqTArHAqVAqWAqYAqZAjSIGN CWIoSHYAjTONE CALYAt PLOPHU",
    "oPLOPHUjVOWEL EqEpOpUqEbELVIN SIGNcYdBOARDi AND MOUSEdCAP TENbHAROSHTHI DIGIT FOURrONErTHREE",
    "sWOlFRACTION ONE HALFlLETTER AsBAtHAsCAtHAsDAtDAuHAtHAsGAtHAsHAsJAsKAtHAtKAsLAsMAsNAtNAtYA",
    "sPAtHAsRAsSAtHAtSAsTAtHAtTAuHAuTAvHAsVAtHAsYAsZAlNUMBER ONE HUNDREDwTHOUSANDsTENtWENTY",
    "lPUNCTUATION CIRCLEyRESCENT BARxDANDAyOTzUBLE DANDAxLINESyOTUSxMANGALAMxSMALL CIRCLE",
    "lSIGN ANUSVARAqBAR ABOVEqCAUDAqDOT BELOWsUBLE RING BELOWqVISARGAlVIRAMAmOWEL LENGTH MARK",
    "rSIGN EwIwOwUwVOCALIC RcITAN SMALL SCRIPT FILLERcMER CURRENCY SYMBOL RIELgDIGIT EIGHTmFIVE",
    "nOURmNINEmONEmSEVENnIXmTHREEnWOmZEROgINDEPENDENT VOWEL LYzbYyQAAzbIzbQzbUzEzIzbIzOO TYPE ONE",
    "ziTWOzUzbKzbUzcVyRYzbYgLETTER BAnCAoHApOoOnDAoOnHAnKAoHApOoOnLAoOnMOnNGOoNOoOoYOnPHApOoOnQA",
    "nROnSAoHAoSOnTAoHApOoOoTHAqOnVOnYOgSIGN AHSDAmTTHACANmVAKRAHASANYAlBANTOCnRIYOOSANnTHAMASAT",
    "mEYYALlCAMNUC PII KUUHmOENGlKAKABATmHANmOOMUUTlLEK TOOlMUUSIKATOANlNIKAHITlPHNAEK MUAN",
    "lREAHMUKmOBATlSAMYOK SANNYAlTOANDAKHIATmRIISAPlVIRIAMlYUUKALEAPINTUhYMBOL BEI KOETrROC",
    "oUON KOETsROCnDAP KOETrROCq-BEI KOETvROCsUON KOETwROCrMUOY KOETwROCrPII KOETvROCsRAM KOET",
    "wROCnLEK ATTAK BEIyUONxMUOYxPIIyRAMzc-BEIzeUONzdMUOYzdPIIxSONnMUOY KOETsROCnPATHAMASAT",
    "oII KOETrROCoRAM KOETsROCr-BEI KOETwROCtUON KOETxROCsMUOY KOETxROCsPII KOETwROCnTUTEYASAT",
    "gVOWEL INHERENT AAwQmSIGN AAsEsIsUrErIsEsIrOEsOrUsAsUrYsAsYcOJKI ABBREVIATION SIGNhDANDA",
    "iOUBLE DANDAoSECTION MARKhLETTER ApApIpUoBApBApHAoCApHAoDApDAqDAqHApHAoEoGApGApHAoHAoIoJApJA",
    "oKApHAoLApLAoMAoNApGApNApYAoOoPApHAoRAoSAoTApHApTAqHAoUoVAoYAhSECTION MARKiIGN ANUSVARA",
    "mNUKTAmSHADDAnUKUNmVIRAMAhVOWEL SIGN AAtItUsEsItIsOsUhWORD SEPARATORcUDAWADI DIGIT EIGHT",
    "qFIVErOURqNINEqONEqSEVENrIXqTHREErWOqZEROkLETTER AsAsIsUrBAsBAsHArCAsHArDAsDAtDAtHAsHArErGA",
    "sGAsHArHArIsIrJAsHAsJArKAsHArLArMArNAsGAsNAsYArOrPAsHArRAsRArSAsHArTAsHAsTAtHArUsUrVArYA",
    "kSIGN ANUSVARApNUKTApVIRAMAkVOWEL SIGN AAwIwUvEvIwIvOvUwUbIMONOcP SIGNcSSe MARK",
    "eING CAT FACE WITH CLOSED EYESiFACEm WITH CLOSED EYESsSMILING EYEScTEcWIFRUITbNEELING PERSON",
    "cOTbOALAcREAN STANDARD SYMBOLbRONOSaL B BAR SYMBOLbAB COATdELcCROSSE STICK AND BALLcDDER",
    "dY BEETLEcNGUAGE TAGcO CANCELLATION MARKeDIGIT EIGHTkFIVElOURkNINEkONEkSEVENlIXkTHREElWO",
    "kZEROeELLIPSISeHO MOhNOeKO LAeLETTER BOlCOlDOlFO FAYpONoSUNGoTAMlHO SUNGoTAMlKHMU GOqNYO",
    "nO SUNGpTAMmOlLOn LINGpOOTlMOlNGOmOmYOlOlPALI BHAqCHAqDDAsHArHAqGHAqJHAqLLAqNNArYAqTTAsHA",
    "mHO SUNGpTAMmOlROlSANSKRIT SHAvSAmO SUNGoTAMlTHO SUNGpTAMmOlWOlYOeNIGGAHITA",
    "eSEMIVOWEL SIGN LOtNYOfIGN PALI VIRAMAeTONE MAI CATAWAnEKnTHOoIeVOWEL SIGN AqAqIqMqYpEqIpIqI",
    "pMAI KANuONpOpUqUpYqYcRGE BLUE CIRCLElDIAMONDlSQUAREhROWN CIRCLEmSQUAREgCIRCLEgDOWN TACK",
    "gGREEN CIRCLEmSQUAREgLEFT TRIANGLE OPERATORgONE DOT OVER TWO DOTS PUNCTUATION",
    "kRING OVER TWO RINGS PUNCTUATIONhRANGE CIRCLEnDIAMONDnSQUAREgPURPLE CIRCLEnSQUAREgRED CIRCLE",
    "kSQUAREgTRIPLE VERTICAL BAR OPERATORhWO DOTS OVER ONE DOT PUNCTUATION",
    "kRINGS OVER ONE RING PUNCTUATIONgUP TACKgYELLOW CIRCLEnSQUAREfR THANl OR EQUAL TOdI SIGN",
    "cST QUARTER MOONr SYMBOLsWITH FACEcTIN CAPITAL LETTER Aw WITH ACUTEzdBREVEzi AND ACUTE",
    "znDOT BELOWznGRAVEznHOOK ABOVEznTILDEzdCARONzeIRCUMFLEXzn AND ACUTEzsDOT BELOWzsGRAVE",
    "zsHOOK ABOVEzsTILDEzdDIAERESISzm AND MACRONzeOT ABOVEzm AND MACRONzhBELOWzfUBLE GRAVEzdGRAVE",
    "zdHOOK ABOVEzdINVERTED BREVEzdMACRONzdOGONEKzdRING ABOVEzn AND ACUTEziBELOWzdSTROKEzdTILDEwA",
    "wEx WITH ACUTEzeMACRONwFRICAN DwLPHAwNGLICANA WwOwUwVx WITH HORIZONTAL BARwYvB",
    "w WITH DOT ABOVEzhBELOWzdFLOURISHzdHOOKzdLINE BELOWzdSTROKEzdTOPBARwETAwROKEN LvC",
    "w WITH ACUTEzdBARzdCARONzeEDILLAzk AND ACUTEzeIRCUMFLEXzdDOT ABOVEzdHOOKzdPALATAL HOOK",
    "zdSTROKEwHIwLOSED INSULAR GwONwUATRILLOzf WITH COMMAvDw WITH CARONzeEDILLAzeIRCUMFLEX BELOW",
    "zdDOT ABOVEzhBELOWzdHOOKzdLINE BELOWzdSHORT STROKE OVERLAYzeMALL LETTER Zzr WITH CARON",
    "zeTROKEzdTOPBARwZx WITH CARONvEw WITH ACUTEzdBREVEzdCARONzeEDILLAzk AND BREVEzeIRCUMFLEX",
    "zn AND ACUTEzsDOT BELOWzsGRAVEzsHOOK ABOVEzsTILDEzoBELOWzdDIAERESISzeOT ABOVEzhBELOW",
    "zfUBLE GRAVEzdGRAVEzdHOOK ABOVEzdINVERTED BREVEzdMACRONzj AND ACUTEzoGRAVEzdOGONEKzdSTROKE",
    "zdTILDEzi BELOWwGYPTOLOGICAL AINzlLEFwNGwSHwTxHwZHy REVERSEDzWITH CARONvFw WITH DOT ABOVE",
    "zdHOOKzdSTROKEvGw WITH ACUTEzdBREVEzdCARONzeEDILLAzeIRCUMFLEXzdDOT ABOVEzdHOOKzdMACRON",
    "zdOBLIQUE STROKEzdSTROKEwAMMAwHAwLOTTAL AzeIzeSTOPzeUvHw WITH BREVE BELOWzdCARONzeEDILLA",
    "zeIRCUMFLEXzdDESCENDERzeIAERESISzeOT ABOVEzhBELOWzdHOOKzdSTROKEwALF HwENGwWAIRvIw WITH ACUTE",
    "zdBREVEzdCARONzeIRCUMFLEXzdDIAERESISzm AND ACUTEzeOT ABOVEzhBELOWzfUBLE GRAVEzdGRAVE",
    "zdHOOK ABOVEzdINVERTED BREVEzdMACRONzdOGONEKzdSTROKEzdTILDEzi BELOWwNSULAR DzeFzeGzeRzeSzeT",
    "wOTAwSvJw WITH CIRCUMFLEXzeROSSED-TAILzdSTROKEvKw WITH ACUTEzdCARONzeEDILLAzdDESCENDER",
    "zeIAGONAL STROKEzeOT BELOWzdHOOKzdLINE BELOWzdOBLIQUE STROKEzdSTROKEzj AND DIAGONAL STROKEvL",
    "w WITH ACUTEzdBARzeELTzdCARONzeEDILLAzeIRCUMFLEX BELOWzdDOT BELOWzm AND MACRONzfUBLE BAR",
    "zdHIGH STROKEzdLINE BELOWzdMIDDLE DOTzkTILDEzdSMALL LETTER JzeTROKEwJvMw WITH ACUTE",
    "zdDOT ABOVEzhBELOWzdHOOKwIDDLE SCOTS Szc-WELSH LLzjVvNw WITH ACUTEzdCARONzeEDILLA",
    "zeIRCUMFLEX BELOWzdDESCENDERzeOT ABOVEzhBELOWzdGRAVEzdLEFT HOOKzeINE BELOWzeONG RIGHT LEG",
    "zdOBLIQUE STROKEzdSMALL LETTER JzdTILDEwJvOw WITH ACUTEzdBREVEzdCARONzeIRCUMFLEXzn AND ACUTE",
    "zsDOT BELOWzsGRAVEzsHOOK ABOVEzsTILDEzdDIAERESISzm AND MACRONzeOT ABOVEzm AND MACRONzhBELOW",
    "zfUBLE ACUTEzkGRAVEzdGRAVEzdHOOK ABOVEzfRNzh AND ACUTEzmDOT BELOWzmGRAVEzmHOOK ABOVEzmTILDE",
    "zdINVERTED BREVEzdLONG STROKE OVERLAYzfOPzdMACRONzj AND ACUTEzoGRAVEzeIDDLE TILDEzdOGONEK",
    "zj AND MACRONzdSTROKEzj AND ACUTEzdTILDEzi AND ACUTEznDIAERESISznMACRONwIwLD POLISH OwMEGAwO",
    "wPEN EzbOwUvPw WITH ACUTEzdDOT ABOVEzdFLOURISHzdHOOKzdSQUIRREL TAILzeTROKE",
    "zj THROUGH DESCENDERvQw WITH DIAGONAL STROKEzdSTROKE THROUGH DESCENDERvRw ROTUNDAxWITH ACUTE",
    "zdCARONzeEDILLAzdDOT ABOVEzhBELOWzm AND MACRONzfUBLE GRAVEzdINVERTED BREVEzdLINE BELOW",
    "zdOBLIQUE STROKEzdSTROKEzdTAILwEVERSED C WITH DOTzfEzfHALF HzfOPEN EwUM ROTUNDAvS",
    "w WITH ACUTEzi AND DOT ABOVEzdCARONzi AND DOT ABOVEzeEDILLAzeIRCUMFLEXzeOMMA BELOW",
    "zdDOT ABOVEzhBELOWzm AND DOT ABOVEzdHOOKzdOBLIQUE STROKEzdSHORT STROKE OVERLAYzeWASH TAIL",
    "wALTILLOwCHWAxRIPT GwHARP SwIGMOID SwMALL CAPITAL IzcQ WITH HOOK TAILvTw WITH CARONzeEDILLA",
    "zeIRCUMFLEX BELOWzeOMMA BELOWzdDIAGONAL STROKEzeOT ABOVEzhBELOWzdHOOKzdLINE BELOW",
    "zdRETROFLEX HOOKzdSTROKEwHORNzb WITH STROKEzn THROUGH DESCENDERwONE FIVEzbSIXzbTWOwRESILLO",
    "wURNED AzeLPHAzdHzdINSULAR GzdKzdLzdMzdTzdVwZvUw BARxWITH ACUTEzdBREVEzdCARONzeIRCUMFLEX",
    "zn BELOWzdDIAERESISzm AND ACUTEzrCARONzrGRAVEzrMACRONznBELOWzeOT BELOWzfUBLE ACUTEzkGRAVE",
    "zdGRAVEzdHOOK ABOVEzfRNzh AND ACUTEzmDOT BELOWzmGRAVEzmHOOK ABOVEzmTILDEzdINVERTED BREVE",
    "zdMACRONzj AND DIAERESISzdOGONEKzdRING ABOVEzdSTROKEzdTILDEzi AND ACUTEzjBELOWwPSILONvV",
    "w WITH DIAGONAL STROKEzeOT BELOWzdHOOKzdTILDEwENDwISIGOTHIC ZwOLAPUK AEzeOEzeUEwYvW",
    "w WITH ACUTEzdCIRCUMFLEXzdDIAERESISzeOT ABOVEzhBELOWzdGRAVEzdHOOKwYNNvXw WITH DIAERESIS",
    "zeOT ABOVEvYw WITH ACUTEzdCIRCUMFLEXzdDIAERESISzeOT ABOVEzhBELOWzdGRAVEzdHOOKzh ABOVEzdLOOP",
    "zdMACRONzdSTROKEzdTILDEwOGHvZw WITH ACUTEzdCARONzeIRCUMFLEXzdDESCENDERzeOT ABOVEzhBELOW",
    "zdHOOKzdLINE BELOWzdPALATAL HOOKzdSTROKEzeWASH TAILpIGATURE IJxOEhROSS",
    "gEPIGRAPHIC LETTER ARCHAIC MyI LONGAzNVERTED MyREVERSED FziPySIDEWAYS IgLETTER AIN",
    "oLVEOLAR CLICKnBIDENTAL PERCUSSIVEpLABIAL CLICKwPERCUSSIVEnDENTAL CLICKnGLOTTAL STOP",
    "z WITH STROKEnINVERTED GLOTTAL STOPzj WITH CURLzpSTROKEnLATERAL CLICK",
    "nPHARYNGEAL VOICED FRICATIVEnRETROFLEX CLICKzd WITH RETROFLEX HOOKpVERSED ESH LOOP",
    "wGLOTTAL STOP WITH STROKEnSINOLOGICAL DOToMALL CAPITAL AzdEzcBzdARRED BzcCzcDzcEzdTHzdZHzcF",
    "zcGzd WITH HOOKzcHzcIzdNVERTED RzcJzcKzcLzd WITH BELTzjSTROKEzcMzcNzcOzdEzdPEN OzdUzcPzcQzcR",
    "zd WITH RIGHT LEGzdEVERSED NzlRzdUMzcSzcTzdURNED EzjGzjKzjMzjRzcUzcVzcWzcYzcZoTRETCHED C",
    "y WITH CURLnTWO WITH STROKEnVOICED LARYNGEAL SPIRANTnWYNNnYR",
    "gSMALL CAPITAL LETTER I WITH STROKEzcU WITH STROKEmLETTER Au REVERSED-SCHWAvWITH ACUTE",
    "zbBREVEzg AND ACUTEzlDOT BELOWzlGRAVEzlHOOK ABOVEzlTILDEzbCARONzcIRCUMFLEXzl AND ACUTE",
    "zqDOT BELOWzqGRAVEzqHOOK ABOVEzqTILDEzbDIAERESISzk AND MACRONzcOT ABOVEzk AND MACRONzfBELOW",
    "zdUBLE GRAVEzbGRAVEzbHOOK ABOVEzbINVERTED BREVEzbMACRONzbOGONEKzbRETROFLEX HOOK",
    "zcIGHT HALF RINGzdNG ABOVEzl AND ACUTEzgBELOWzbSTROKEzbTILDEuAuEv WITH ACUTEzcMACRONuLPHA",
    "y WITH RETROFLEX HOOKuNGLICANA WuOuUuVv WITH HORIZONTAL BARuYtBu WITH DOT ABOVEzfBELOW",
    "zbFLOURISHzbHOOKzbLINE BELOWzbMIDDLE TILDEzbPALATAL HOOKzbSTROKEzbTOPBARuARRED ALPHAzbEzbO",
    "vSELINE ESHuETAuLACKLETTER EzgOzh WITH STROKEuOTTOM HALF OuROKEN LtCu WITH ACUTEzbBARzbCARON",
    "zcEDILLAzi AND ACUTEzcIRCUMFLEXzcURLzbDOT ABOVEzbHOOKzbPALATAL HOOKzbRETROFLEX HOOKzbSTROKE",
    "uHIw WITH LOW LEFT SERIFzhRIGHT RINGuLOSED INSULAR GzbOMEGAzcPEN EzbREVERSED OPEN EuON",
    "uUATRILLOzd WITH COMMAtDu WITH CARONzcEDILLAzcIRCUMFLEX BELOWzcURLzbDOT ABOVEzfBELOWzbHOOK",
    "zf AND TAILzbLINE BELOWzbMIDDLE TILDEzbPALATAL HOOKzbSHORT STROKE OVERLAYzcTROKEzbTAIL",
    "zcOPBARuB DIGRAPHuELTAvZH DIGRAPHzg WITH PALATAL HOOKzmRETROFLEX HOOKuOTLESS IzcJ",
    "zd WITH STROKEzp AND HOOKvUBLE Rzc WITH CROSSED-TAILzbTHORNzbWYNNuUMuZv DIGRAPHze WITH CURL",
    "zkRETROFLEX HOOKwWITH CARONtEu WITH ACUTEzbBREVEzbCARONzcEDILLAzi AND BREVEzcIRCUMFLEX",
    "zl AND ACUTEzqDOT BELOWzqGRAVEzqHOOK ABOVEzqTILDEzmBELOWzbDIAERESISzcOT ABOVEzfBELOW",
    "zdUBLE GRAVEzbFLOURISHzbGRAVEzbHOOK ABOVEzbINVERTED BREVEzbMACRONzh AND ACUTEzmGRAVEzbNOTCH",
    "zbOGONEKzbRETROFLEX HOOKzbSTROKEzbTILDEzg BELOWuGYPTOLOGICAL AINzjLEFuNGw WITH CROSSED-TAIL",
    "zdPALATAL HOOKuSHw WITH CURLzdDOUBLE BARzn AND CURLzdPALATAL HOOKzdRETROFLEX HOOKuTvHuZH",
    "w REVERSEDxWITH CARONzeURLzdPALATAL HOOKzdRETROFLEX HOOKzdTAILtFu WITH DOT ABOVEzbHOOK",
    "zbMIDDLE TILDEzbPALATAL HOOKzbSTROKEuENG DIGRAPHzg WITH TRILLtGu WITH ACUTEzbBREVEzbCARON",
    "zcEDILLAzcIRCUMFLEXzbDOT ABOVEzbHOOKzbMACRONzbOBLIQUE STROKEzbPALATAL HOOKzbSTROKEuAMMAuHA",
    "uLOTTAL AzcIzcSTOPzcUtHu WITH BREVE BELOWzbCARONzcEDILLAzcIRCUMFLEXzbDESCENDERzcIAERESIS",
    "zcOT ABOVEzfBELOWzbHOOKzbLINE BELOWzbPALATAL HOOKzbSTROKEuALF HuENGx WITH HOOKuVtI",
    "u WITH ACUTEzbBREVEzbCARONzcIRCUMFLEXzbDIAERESISzk AND ACUTEzcOT BELOWzdUBLE GRAVEzbGRAVE",
    "zbHOOK ABOVEzbINVERTED BREVEzbMACRONzbOGONEKzbRETROFLEX HOOKzbSTROKEzh AND RETROFLEX HOOK",
    "zbTILDEzg BELOWuNSULAR DzcFzcGzcRzcSzcTvVERTED ALPHAzdOEuOTAx WITH STROKEwIFIED EuStJ",
    "u WITH CARONzcIRCUMFLEXzcROSSED-TAILzbSTROKEtKu WITH ACUTEzbCARONzcEDILLAzbDESCENDER",
    "zcIAGONAL STROKEzcOT BELOWzbHOOKzbLINE BELOWzbOBLIQUE STROKEzbPALATAL HOOKzbSTROKE",
    "zh AND DIAGONAL STROKEuRAtLu WITH ACUTEzbBARzcELTzf AND PALATAL HOOKzbCARONzcEDILLA",
    "zcIRCUMFLEX BELOWzcURLzbDOT BELOWzk AND MACRONzdUBLE BARziMIDDLE TILDEzbFISHHOOK",
    "zbHIGH STROKEzbINVERTED LAZY SzbLINE BELOWzbMIDDLE DOTziRINGziTILDEzbPALATAL HOOK",
    "zbRETROFLEX HOOKzp AND BELTzbSTROKEuAMBDA WITH STROKEuENIS FvZHx WITH RETROFLEX HOOKuJuONG S",
    "z WITH DIAGONAL STROKEzhOT ABOVEzgHIGH STROKEuS DIGRAPHuUMuZ DIGRAPHtMu WITH ACUTE",
    "zbCROSSED-TAILzbDOT ABOVEzfBELOWzbHOOKzbMIDDLE TILDEzbPALATAL HOOKuIDDLE SCOTS Sz-WELSH LL",
    "zhVuUMtNu PRECEDED BY APOSTROPHEvWITH ACUTEzbCARONzcEDILLAzcIRCUMFLEX BELOWzcROSSED-TAIL",
    "zcURLzbDESCENDERzcOT ABOVEzfBELOWzbGRAVEzbLEFT HOOKzcINE BELOWzcONG RIGHT LEGzbMIDDLE TILDE",
    "zbOBLIQUE STROKEzbPALATAL HOOKzbRETROFLEX HOOKzbTILDEuJuUMtOu WITH ACUTEzbBREVEzbCARON",
    "zcIRCUMFLEXzl AND ACUTEzqDOT BELOWzqGRAVEzqHOOK ABOVEzqTILDEzbDIAERESISzk AND MACRON",
    "zcOT ABOVEzk AND MACRONzfBELOWzdUBLE ACUTEziGRAVEzbGRAVEzbHOOK ABOVEzdRNzf AND ACUTE",
    "zkDOT BELOWzkGRAVEzkHOOK ABOVEzkTILDEzbINVERTED BREVEzbLONG STROKE OVERLAYzdOP",
    "zdW RING INSIDEzbMACRONzh AND ACUTEzmGRAVEzbOGONEKzh AND MACRONzbRETROFLEX HOOKzbSTROKE",
    "zh AND ACUTEzbTILDEzg AND ACUTEzlDIAERESISzlMACRONuIuLD POLISH OuMEGAuOuPEN E",
    "z WITH RETROFLEX HOOKyOz WITH RETROFLEX HOOKzgSTROKEzEuUtPu WITH ACUTEzbDOT ABOVEzbFLOURISH",
    "zbHOOKzbMIDDLE TILDEzbPALATAL HOOKzbSQUIRREL TAILzcTROKEzh THROUGH DESCENDERuHItQ",
    "u WITH DIAGONAL STROKEzbHOOKzf TAILzbSTROKE THROUGH DESCENDERuP DIGRAPHtRu ROTUNDA",
    "vWITH ACUTEzbCARONzcEDILLAzcROSSED-TAILzbDOT ABOVEzfBELOWzk AND MACRONzdUBLE GRAVEzbFISHHOOK",
    "zj AND MIDDLE TILDEzoPALATAL HOOKzbINVERTED BREVEzbLINE BELOWzcONG LEGzbMIDDLE TILDE",
    "zbOBLIQUE STROKEzbPALATAL HOOKzbSTROKEzbTAILzOUT HANDLEuAMS HORNuEVERSED Cze WITH DOTzdEzeNG",
    "zdHALF HzdKzdOPEN Ezj WITH HOOKzpRETROFLEX HOOKzdR WITH FISHHOOKzdSCRIPT GuUMw ROTUNDAtS",
    "u WITH ACUTEzg AND DOT ABOVEzbCARONzg AND DOT ABOVEzcEDILLAzcIRCUMFLEXzcOMMA BELOWzcURL",
    "zbDOT ABOVEzfBELOWzk AND DOT ABOVEzbHOOKzbMIDDLE TILDEzbOBLIQUE STROKEzbPALATAL HOOK",
    "zbSHORT STROKE OVERLAYzcWASH TAILuAKHA YATvLTILLOuCHWAy WITH HOOKzfRETROFLEX HOOKvRIPT G",
    "zc WITH CROSSED-TAILzbRzc WITH RINGuHARP SuIDEWAYS DIAERESIZED UzdOze WITH STROKEzePEN O",
    "zdTURNED MzdUvGMOID SuQUAT REVERSED ESHuTIRRUP RtTu WITH CARONzcEDILLAzcIRCUMFLEX BELOW",
    "zcOMMA BELOWzcURLzbDIAERESISzeGONAL STROKEzcOT ABOVEzfBELOWzbHOOKzf AND RETROFLEX HOOK",
    "zbLINE BELOWzbMIDDLE TILDEzbPALATAL HOOKzbRETROFLEX HOOKzbSTROKEuAILLESS PHI",
    "uC DIGRAPH WITH CURLuESH DIGRAPHzg WITH PALATAL HOOKzmRETROFLEX HOOKuH WITH STRIKETHROUGH",
    "vORNy WITH STROKEzl THROUGH DESCENDERuONE FIVEySIXyTWOvP HALF OuRESILLOuS DIGRAPH",
    "ze WITH RETROFLEX HOOKuUMvRNED AzcEzcLPHAzbDELTAzbEzbGzbHzc WITH FISHHOOKzq AND TAILzbI",
    "zcNSULAR GzbKzbLzbMzc WITH LONG LEGzbO OPEN-Ozj WITH STROKEzcEzd WITH HORIZONTAL STROKE",
    "zjSTROKEzcPEN EzbRzc WITH HOOKziLONG LEGzq AND RETROFLEX HOOKziMIDDLE TILDEziPALATAL HOOK",
    "ziTAILzbTzc WITH CURLzbUIzbVzbWzbYzc WITH BELTuZtUu BARy WITH SHORT RIGHT LEGvWITH ACUTE",
    "zbBREVEzbCARONzcIRCUMFLEXzl BELOWzbDIAERESISzk AND ACUTEzpCARONzpGRAVEzpMACRONzlBELOW",
    "zcOT BELOWzdUBLE ACUTEziGRAVEzbGRAVEzbHOOK ABOVEzdRNzf AND ACUTEzkDOT BELOWzkGRAVE",
    "zkHOOK ABOVEzkTILDEzbINVERTED BREVEzbLEFT HOOKzbMACRONzh AND DIAERESISzbOGONEK",
    "zbRETROFLEX HOOKzcING ABOVEzbSHORT RIGHT LEGzcTROKEzbTILDEzg AND ACUTEzhBELOWuEuIuMuOuPSILON",
    "zb WITH STROKEtVu WITH CURLzbDIAGONAL STROKEzcOT BELOWzbHOOKzbPALATAL HOOKzbRIGHT HOOK",
    "zbTILDEuENDuISIGOTHIC ZuOLAPUK AEzcOEzcUEuYtWu WITH ACUTEzbCIRCUMFLEXzbDIAERESISzcOT ABOVE",
    "zfBELOWzbGRAVEzbHOOKzbRING ABOVEtXu WITH DIAERESISzcOT ABOVEzbLONG LEFT LEG",
    "zo AND LOW RIGHT RINGzpWITH SERIFzdW RIGHT RINGzbPALATAL HOOKtYu WITH ACUTEzbCIRCUMFLEX",
    "zbDIAERESISzcOT ABOVEzfBELOWzbGRAVEzbHOOKzf ABOVEzbLOOPzbMACRONzbRING ABOVEzbSHORT RIGHT LEG",
    "zcTROKEzbTILDEuOGHtZu WITH ACUTEzbCARONzcIRCUMFLEXzcURLzbDESCENDERzcOT ABOVEzfBELOWzbHOOK",
    "zbLINE BELOWzbMIDDLE TILDEzbPALATAL HOOKzbRETROFLEX HOOKzbSTROKEzcWASH TAILnIGATURE FFxIxLwI",
    "wLvIJvLONG S TvOEvSThUBSCRIPT SMALL LETTER AzeEzeHzeIzeJzeKzeLzeMzeNzeOzePzeRzeSzfCHWAzeTzeU",
    "zeVzeXbEAF FLUTTERING IN WINDeY GREENcDGER",
    "cFT AND LOWER AND RIGHT TRIANGULAR THREE QUARTERS BLOCKpONE EIGHTH BLOCK",
    "jRIGHT DOUBLE TURNSTILEpTACKqRIANGULAR HALF BLOCK",
    "jUPPER AND RIGHT TRIANGULAR THREE QUARTERS BLOCKpONE EIGHTH BLOCKhGER BUBBLEiLE BRACKET",
    "s WITH DOTgRC LESS-THAN BRACKEThROW WITH CIRCLED PLUSqSMALL CIRCLE",
    "fBARB DOWN RIGHT BARB DOWN HARPOONzbUP HARPOONkUP RIGHT BARB DOWN HARPOONyUP HARPOON",
    "gLACK LENTICULAR BRACKETlTORTOISE SHELL BRACKETfCEILINGgLOSED ENTRYgORNER BRACKET",
    "gURLY BRACKETs LOWER HOOKtMIDDLE PIECEtUPPER HOOKfDOTTED SUBSTITUTION BRACKET",
    "hUBLE ANGLE BRACKETmPARENTHESISmQUOTATION MARKmWIGGLY FENCEfFISH TAILhVE EIGHTHS BLOCKgLOOR",
    "fHALF BLACK CIRCLEqSTARmOCKkCIRCLEq WITH DOTwFOUR DOTSwTHREE DOTSxWO DOTSkFOLDER",
    "kINVERSE MEDIUM SHADE AND RIGHT HALF BLOCKkMEDIUM SHADEkRUNNING MANhND TELEPHONE RECEIVER",
    "fLOW PARAPHRASE BRACKETgUGGAGEfMULTIMAPfNORMAL FACTOR SEMIDIRECT PRODUCTfONE EIGHTH BLOCK",
    "jQUARTER BLOCKgUTER JOINfPARENTHESISq EXTENSIONrLOWER HOOKrUPPER HOOK",
    "fRAISED OMISSION BRACKETgIGHT ARROWq THROUGH SMALL CIRCLErWITH DOUBLE VERTICAL STROKEwSTROKE",
    "wVERTICAL STROKElBLACK ARROWlDOUBLE ARROWx WITH STROKEzeVERTICAL STROKElOPEN-HEADED ARROW",
    "lSANS-SERIF ARROWlTRIANGLE-HEADED ARROWlWAVE ARROWmHITE ARROWfS-SHAPED BAG DELIMITER",
    "gEMIDIRECT PRODUCThVEN EIGHTHS BLOCKgIDEWAYS U BRACKEThNGLE QUOTATION MARKgPEECH BUBBLE",
    "gQUARE BRACKETt EXTENSIONuLOWER CORNERuUPPER CORNERuWITH DOUBLE STROKEzQUILLzSTROKE",
    "zTICK IN BOTTOM CORNERziTOP CORNERzUNDERBARgUBSTITUTION BRACKETfTACK",
    "gHIRD WHITE RIGHT POINTING INDEXhOUGHT BUBBLEhREE EIGHTHS BLOCKlQUARTERS BLOCK",
    "gORTOISE SHELL BRACKETgRANSPOSITION BRACKEThIANGLE BESIDE VERTICAL BAR",
    "lULAR ONE QUARTER BLOCKfVERTICAL BAR WITH QUILLpOX LINEfWHITE CORNER BRACKETmURLY BRACKET",
    "lLENTICULAR BRACKETlPARENTHESISlSQUARE BRACKETlTORTOISE SHELL BRACKETgIGGLY FENCE",
    "gRITING HANDe-FACING ARMENIAN ETERNITY SIGNmFISTmSVASTI SIGNx WITH DOTS",
    "fHANDED INTERLACED PENTAGRAMfPOINTING ANGLE BRACKEToCURVED ANGLE BRACKET",
    "oDOUBLE ANGLE QUOTATION MARKoMAGNIFYING GLASSfSHADED WHITE RIGHTWARDS ARROW",
    "gIDE ARC ANTICLOCKWISE ARROWfTO-RIGHT EMBEDDINGoISOLATEoMARKoOVERRIDEeWARDS ARROW",
    "p ABOVE ALMOST EQUAL TOwREVERSE ALMOST EQUAL TOzfTILDE OPERATORwSHORT RIGHTWARDS ARROW",
    "wTILDE OPERATORrND UPPER AND LOWER ONE EIGHTH BLOCKqFROM BARy TO BLACK DIAMOND",
    "qOVER RIGHTWARDS ARROWqTHROUGH LESS-THANySUBSETyXrO BARw OVER RIGHTWARDS ARROW TO BAR",
    "uLACK DIAMONDqWITH DOTTED STEMxUBLE VERTICAL STROKEvEQUILATERAL ARROWHEADvHOOK",
    "vLARGE TRIANGLE ARROWHEADwOOPvMEDIUM TRIANGLE ARROWHEADvNOTCHED TAILvPLUS BELOW",
    "vSMALL EQUILATERAL ARROWHEADzcTRIANGLE ARROWHEADwTROKEvTAILz WITH DOUBLE VERTICAL STROKE",
    "zgVERTICAL STROKEwIP DOWNWARDSzUPWARDSvVERTICAL STROKEp-TAIL",
    "kBACK-TILTED SHADOWED WHITE ARROWlLACK ARROWqCIRCLED WHITE ARROWlOTTOM-SHADED WHITE ARROW",
    "kCOMPRESSED ARROWkDASHED ARROWlOUBLE ARROWw FROM BARxWITH STROKEzdVERTICAL STROKEw-TAIL",
    "rDASH ARROWkFINGER-POST ARROWlRONT-TILTED SHADOWED WHITE ARROWkHAND",
    "mRPOON OVER RIGHTWARDS HARPOONsWITH BARB DOWN ABOVE RIGHTWARDS HARPOON WITH BARB DOWN",
    "ziBELOW LONG DASHziFROM BARziTO BARzhWARDSzdUP ABOVE LEFTWARDS HARPOON WITH BARB DOWN",
    "znONG DASHzmRIGHTWARDS HARPOON WITH BARB UPzgFROM BARzgTO BARzfWARDSlEAVY ARROW",
    "qCOMPRESSED ARROWkLEFT-SHADED WHITE ARROWkOPEN-HEADED ARROWkPAIRED ARROWSkQUADRUPLE ARROW",
    "kRIGHT-SHADED WHITE ARROWlOCKETkSANS-SERIF ARROWlQUARED ARROWnIGGLE ARROW",
    "kTOP SHADED WHITE ARROWlRIANGLE ARROWHEADs-HEADED ARROW",
    "zg OVER RIGHTWARDS TRIANGLE-HEADED ARROWzhTO BARzhWITH BOLD SHAFTzmDOUBLE HORIZONTAL STROKE",
    "ztVERTICAL STROKEzmHEAVY SHAFTzmLONG TIP DOWNWARDSzvUPWARDSzmMEDIUM SHAFTzmNARROW SHAFT",
    "zmVERY HEAVY SHAFTzbDASHED ARROWzbPAIRED ARROWSnPLE ARROWrDASH ARROWlWO HEADED ARROW",
    "n-HEADED ARROW FROM BARzcWITH DOUBLE VERTICAL STROKEzhTAILzl WITH DOUBLE VERTICAL STROKE",
    "zrVERTICAL STROKEziRIANGLE ARROWHEADSzhVERTICAL STROKEvTRIPLE DASH ARROWkWAVE ARROW",
    "lHITE ARROWv WITHIN TRIANGLE ARROWHEADcGcMONcOdPARDcPCHA CONSONANT SIGN KxANGwLwMwNxYIN-DOwP",
    "wRwThDIGIT EIGHTnFIVEoOURnNINEnONEnSEVENoIXnTHREEoWOnZEROhLETTER AoBApLAoCApHAoDApDApZAoFA",
    "pLAoGApLAoHApLAoJAoKApHApLAoLAoMApLAoNApGApYAoPApHApLAoRAoSApHAoTApHApSAqHApTAqHAoVAoWAoYA",
    "hPUNCTUATION CER-WAtNYET THYOOM TA-ROLtTA-ROLuSHOOKz CER-WAhSIGN NUKTAmRAN",
    "iUBJOINED LETTER RAyYAhVOWEL SIGN AAsEsIsOtOsUtU",
    "cSS-THAN ABOVE DOUBLE-LINE EQUAL ABOVE GREATER-THANqGREATER-THAN ABOVE DOUBLE-LINE EQUAL",
    "qLEFTWARDS ARROWqSIMILAR ABOVE GREATER-THANyOR EQUAL",
    "rLANTED EQUAL ABOVE GREATER-THAN ABOVE SLANTED EQUALlND NOT APPROXIMATE",
    "oSINGLE-LINE NOT EQUAL TOkBUT NOT EQUAL TOvIVALENT TOkCLOSED BY CURVEz ABOVE SLANTED EQUAL",
    "kEQUAL TO OR GREATER-THANkOR APPROXIMATEnEQUAL TOqIVALENT TOnGREATER-THANnSLANTED EQUAL TO",
    "ze WITH DOT ABOVEzt RIGHTzoINSIDElVER EQUAL TOkSIGNkWITH CIRCLE INSIDEpDOT",
    "pQUESTION MARK ABOVEcVEL SLIDERbFbIBRAcGATURE OPEN ET ORNAMENTdHT CHECK MARK",
    "gEIGHT SPOKED ASTERISKgFIVE POINTED BLACK STARlSPOKED ASTERISKhOUR POINTED BLACK CUSPzSTAR",
    "gGREEK CROSSgLEFT TORTOISE SHELL BRACKET ORNAMENTgRAILhIGHT TORTOISE SHELL BRACKET ORNAMENT",
    "gSALTIREhHADEhIX SPOKED ASTERISKgTHREE POINTED BLACK STARhWELVE POINTED BLACK STAR",
    "gVERTICAL BARgWHITE SQUAREfNINGj MOODo BUBBLEcMBU DIGIT EIGHTmFIVEnOURmNINEmONEmSEVENnIX",
    "mTHREEnWOmZEROgEXCLAMATION MARKgLETTER BAoHAnCAoHAnDAoHAnGAoHAoYANnHAnJAoHAnKAoHAnLAnMAnNA",
    "oGAnPAoHAnRAnSAoHAoSAnTAoHAoRAnWAnYApNgQUESTION MARKgSIGN KEMPHRENGlLOOlMUKPHRENGlSA-I",
    "hMALL LETTER ANUSVARAtKAtLAtMAtNAuGAtPAtRAtTAhUBJOINED LETTER RAxWAxYAgVOWEL SIGN AsIsUrEsE",
    "rIrOsOrUl-CARRIER LETTERdITED LIABILITY SIGNcNE FEEDfINTEGRATION NOT INCLUDING THE POLE",
    "rWITH RECTANGULAR PATH AROUND POLEwSEMICIRCULAR PATH AROUND POLEfSEPARATORfTABULATIONp SET",
    "eAR A SIGN A028Bp100-102q20Bq31Cp301r2r3r4r5r6r7r8r9AsBsCq10r1r2r3AsBsCr4r5r6r7r8r9q20r1r2r3",
    "r4r5r6r7r8r9q30r1r2r3r4r5r6r7r8r9q40r1r2r3r4r5r6r7r8r9q50r1r2r3r4r5r6r7r8r9q60r1r2r3r4r5r6r7",
    "r8r9q70r1p400-VASr1-VASr2-VASr3-VASr4-VASr5-VASr6-VASr7-VASr8-VASr9-VASq10-VASr1-VASr2-VAS",
    "r3-VASr4-VASr5-VASr6-VASr7-VASr8-VASp501r2r3r4r5r6r8r9q10r1r2r3r5r6q20r1r3r4r5r6r7r8r9q30r1",
    "r2r4r5r6r7r8r9q40r1r2r5r7r8r9q50r1r2r3r4r5r6r7r9q63r4r5r6r8r9q70r1r2r3r4r5r6r7r8r9q80r1r2r3",
    "r4r5r6r7r8r9q91r2r4r5r6r8p600r1r2r3r4r6r8r9q10r1r2r3r4r5r6r7r8r9q20r1r2r3r4r6r7r8r9q34r7r8",
    "q40r2r3r4r5r6r8r9q51r2r3r4r5r6r7r8r9q60r1r2r3r4p701 Ar2 Br3 Dr4 Er5 Fr6 Hr7 Jr8 Kr9 Ls-2 L2",
    "t3 L3t4 L4t6 L6q10 Wr1 Xr2 Yr3 OMEGAr4 ABBr5 BBr7 DDq26 EYYYq32 JEp800r1r2r3r4r5r6r7pB001s2",
    "s3s4s5s6s7s8s9r10s1s3s6s7r20s1tFtMs2tFtMs3tMs4s6s7s8s9r30s1s4s7s8s9r40s1s4s5s6s7s8s9r50s1s3",
    "s4s5s6s7s8s9r60s1s5s6s7s9r70s3s4s6s7s8s9r80s1s2s5s6s7q118r20s2s3r31AtBr64r71r80s8r91",
    "hB IDEOGRAM B100 MANv2 WOMANv4 DEERv5 EQUIDwF MAREwM STALLIONv6F EWEwM RAMv7F SHE-GOAT",
    "wM HE-GOATv8F SOWwM BOARv9F COWwM BULLu20 WHEATv1 BARLEYv2 OLIVEv3 SPICEv5 CYPERUSu30 OIL",
    "v1 WINEv2u40 BRONZEv1 GOLDv2v5 WOOLv6u50v1 HORNv2v3v4v7v8v9 CLOTHu60v1v2 GARMENTv3 ARMOURv4",
    "v5v6v7v8v9u70v1v2v3 MONTHv4v6 TREEv7v8v9u80v1v2v3v4v5v9u90v1 HELMETt220 FOOTSTOOLv5 BATHTUB",
    "u30 SPEARv1 ARROWv2v3 SWORDv4v6u40 WHEELED CHARIOTv1 CHARIOTv2 CHARIOT FRAMEv3 WHEELv5v6v8v9",
    "u51v2v3v4 DARTv5v6v7v8v9sVESSEL B155zb200zd1zd2zd3zd4zd5zd6zd7zd8zd9zc10zd1zd2zd3zd4zd5zd6",
    "zd7zd8zd9zc21zd2zd6zd7zd8zd9zc50zb305jMONOGRAM B127 KAPOv8 KANAKOu33 AREPAv5 MERIu56 TURO2",
    "t247 DIPTEjSYLLABLE B001 DAv2 ROv3 PAv4 TEv5 TOv6 NAv7 DIv8 Av9 SEu10 Uv1 POv2 SOv3 MEv4 DO",
    "v5 MOv6 QAv7 ZAu20 ZOv1 QIv3 MUv4 NEv5 A2v6 RUv7 REv8 Iv9 PU2u30 NIv1 SAv2 QOv3 RA3v6 JO",
    "v7 TIv8 Ev9 PIu40 WIv1 SIv2 WOv3 A3v4 KEv5 DEv6 JEv8 NWAu50 PUv1 DUv2 NOv3 RIv4 WAv5 NUv7 JA",
    "v8 SUv9 TAu60 RAv1 Ov2 PTEv5 JUv6 TA2v7 KIv8 RO2v9 TUu70 KOv1 DWEv2 PEv3 MIv4 ZEv5 WEv6 RA2",
    "v7 KAv8 QEu80 MAv1 KUv5 AUv7 TWEu90 DWOv1 TWOlMBOL B018t9s22s34s47t9s56s63t4s79s82t3t6t9",
    "dK SYMBOLeED PAPERCLIPScON FACEcPSeTICKcRA SIGNcSU LETTER AnEmBAmCAnHAmDAnZAmEnUmFAmGAnHAmHA",
    "nHAmImJAmKAnHAmLAmMAmNAnGAmOnEmPAnHAmSAnHAmTAnHAnONE MYA BOvCYAvJEUvNAvTIrNA POnSAoHAmUnEnH",
    "mWAmXAmYAnHAmZAnHAfPUNCTUATION COMMArFULL STOPcVRE TOURNOIS SIGNcZARDbLAMAbOBSTERcCK",
    "e WITH INK PENeING-SHIFT ONEoZEROcGICAL ANDl WITH DOT ABOVEtUBLE OVERBARyUNDERBAR",
    "rHORIZONTAL DASHrMIDDLE STEMrUNDERBARiORk OVERLAPPING LOGICAL ANDlWITH DOT ABOVE",
    "sUBLE OVERBARxUNDERBARqHORIZONTAL DASHqMIDDLE STEMcLLIPOP",
    "cNG DASH FROM LEFT MEMBER OF DOUBLE VERTICALgIVISIONgRUMfLEFT RIGHT ARROWqDOUBLE ARROWkTACK",
    "jWARDS ARROWu FROM BARpDOUBLE ARROWzc FROM BARpSQUIGGLE ARROWfRIGHT TACKkWARDS ARROW",
    "v FROM BARqDOUBLE ARROWzd FROM BARqSQUIGGLE ARROWcTION BOTTLEdUScUDLY CRYING FACEcVE HOTEL",
    "fLETTERcW ASTERISKeBATTERYfRIGHTNESS SYMBOLeDOUBLE PRIME QUOTATION MARKeKAVYKAk WITH DOT",
    "eLINEdER BLADE SCISSORSgFIVE EIGHTHS BLOCKgHALF BLOCKlCIRCLElINVERSE WHITE CIRCLE",
    "lMEDIUM SHADEgLEFT BALLPOINT PENmLOCK DIAGONAL LOWER MIDDLE LEFT TO LOWER CENTREzzdRIGHT",
    "zbUPPER CENTRE TO LOWER MIDDLE RIGHTzxRIGHTzrUPPER MIDDLE RIGHTzhLEFT TO LOWER CENTRE",
    "zvMIDDLE RIGHTzpUPPER MIDDLE RIGHTzhMIDDLE LEFT TO LOWER CENTREzzdMIDDLE RIGHTzzdRIGHT",
    "lCRAYONlFOUNTAIN PENlPAINTBRUSHmENCILlQUADRANT CIRCULAR ARClSEMICIRCULAR ANTICLOCKWISE ARROW",
    "lTRIANGLErULAR MEDIUM SHADEgONE EIGHTH BLOCKkQUARTER BLOCK",
    "gRIGHT BLOCK DIAGONAL LOWER CENTRE TO LOWER MIDDLE RIGHTzsUPPER MIDDLE RIGHTzyRIGHT",
    "ziLEFT TO LOWER MIDDLE RIGHTzqUPPER CENTREzwMIDDLE RIGHTziMIDDLE LEFT TO UPPER CENTRE",
    "zzeMIDDLE RIGHTzzeRIGHTzcUPPER MIDDLE LEFT TO UPPER CENTREzzeRIGHTmCORNER WITH DOT",
    "mDROP-SHADOWED WHITE SQUAREmPENCILmQUADRANT CIRCULAR ARCmSEMICIRCULAR CLOCKWISE ARROW",
    "nHADOWED WHITE CIRCLEzcSQUAREmTRIANGLEsULAR MEDIUM SHADEgSEVEN EIGHTHS BLOCK",
    "gTHREE EIGHTHS BLOCKmQUARTERS BLOCKhRIANGULAR ONE QUARTER BLOCKcZENGE",
    "h DIVIDED BY HORIZONTAL RULEbREcIcMcObUGGAGEcNGSbYCIAN LETTER ApNoBpHoDoEpNoGoHoIoJoKpKoLoM",
    "pMoNpNoPoQoRoSoTpHpToUoWoXoZcDIAN LETTER ApNoBoCoDoEpNoFoGoIoKoLpYoMoNpNoOoQoRoSpSoTpToUoVoY",
    "hTRIANGULAR MARKcING FACEaMACRONcGEdIC WANDdNETcHAJANI ABBREVIATION SIGNjLETTER AqBArHAqCA",
    "rHAqDArDAsHArHAqEqGArHAqHAqIqJArHAqKArHAqLAqMAqNArNArYAqOqPArHAqRArRAqSAqTArHArTAsHAqUqVA",
    "kIGATURE SHRIjSECTION MARKkIGN NUKTAdJONG TILE AUTUMNnBACKpMBOOnCHRYSANTHEMUMnEAST WIND",
    "oIGHT OF BAMBOOSwCHARACTERSxIRCLESnFIVE OF BAMBOOSvCHARACTERSwIRCLESoOUR OF BAMBOOS",
    "vCHARACTERSwIRCLESnGREEN DRAGONnJOKERnNINE OF BAMBOOSvCHARACTERSwIRCLESoORTH WIND",
    "nONE OF BAMBOOSuCHARACTERSvIRCLESoRCHIDnPLUMnRED DRAGONnSEVEN OF BAMBOOSwCHARACTERSxIRCLES",
    "oIX OF BAMBOOSuCHARACTERSvIRCLESoOUTH WINDoPRINGoUMMERnTHREE OF BAMBOOSwCHARACTERSxIRCLES",
    "oWO OF BAMBOOSuCHARACTERSvIRCLESnWEST WINDoHITE DRAGONoINTERcKASAR ANGKAiEND OF SECTION",
    "iLETTER ApBApCApDApGApJApKApLApMApNAqGAqYApPApRApSApTApVApYAiPASSIMBANGiVOWEL SIGN EtItOtU",
    "cLAYALAM AU LENGTH MARKkDATE MARKlIGIT EIGHTqFIVErOURqNINEqONEqSEVENrIXqTHREErWOqZERO",
    "kFRACTION ONE EIGHTHxFIFTHyORTIETHxHALFxONE-HUNDRED-AND-SIXTIETHxQUARTERxSIXTEENTHxTENTH",
    "yWENTIETHtTHREE EIGHTIETHSzQUARTERSzSIXTEENTHSzTWENTIETHSkLETTER AsAsIsRCHAIC IIsUrBAsHArCA",
    "sHAtILLU KyLzLzbLyMyNzNyRRyYrDAsDAtHAsHAsOT REPHrEsErGAsHArHArIsIrJAsHArKAsHArLAsLAtLArMArNA",
    "sGAsNAtNAsYArOsOrPAsHArRAsRArSAsHAsSArTAsHAsTAtHAtTArUsUrVAsEDIC ANUSVARAsOCALIC LzbLzRzbR",
    "rYAkNUMBER ONE HUNDREDvTHOUSANDrTENkSIGN ANUSVARAqVAGRAHApCANDRABINDUqIRCULAR VIRAMA",
    "qOMBINING ANUSVARA ABOVEpPARApVERTICAL BAR VIRAMAqIRAMArSARGAkVOWEL SIGN AAwIwUvEwEvIwIvOwO",
    "vUwUvVOCALIC LzfLzeRzfRdE AND FEMALE SIGNfSIGNfWITH STROKE AND MALE AND FEMALE SIGNrSIGN",
    "dTESE CROSScMMOTHcNd AND WOMAN HOLDING HANDSeDANCINGeIN BUSINESS SUIT LEVITATINGhTUXEDO",
    "eWITH GUA PI MAOjTURBANdAT SIGNdDAIC AFFRICATION MARKiGEMINATION MARKiLETTER ABqDqGqHqINqK",
    "rSAqLqMqNqPqQqRqSrHrZqTrTqZpDUSHENNApHALQApINqTpKADpUSHENNAiPUNCTUATIONiVOCALIZATION MARKdGO",
    "dICHAEAN ABBREVIATION MARK ABOVEzeBELOWlLETTER AAYINtLEPHtYINsBETHtHETHsDALETHtHAMEDHsFE",
    "sGHIMELtIMELsHEuTHsJAYINtHAYINsKAPHtHAPHsLAMEDHsMEMsNUNsPEsQHOPHtOPHsRESHsSADHEuMEKHtHIN",
    "tSHINsTAWtETHtHAMEDHsWAWsXAPHtOPHsYODHsZAYINtHAYINlNUMBER FIVEsONEv HUNDREDsTENtWENTY",
    "lPUNCTUATION DOTzb WITHIN DOTzUBLE DOT WITHIN DOTxFLEURONxLINE FILLERxSTARxTWO DOTSlSIGN UD",
    "dS SHOEdTELPIECE CLOCKdUAL WHEELCHAIRcP SYMBOL FOR LIGHTHOUSEdLE LEAFcRCHEN HEAD MARK",
    "iLETTER -ApApBApCAqHApDAqZApGApHApJApKAqHApLApMApNAqGAqYApPAqHApRApSAqHApTAqHAqSArHApWApYA",
    "pZAqHAiMARK SHADiSIGN ANUSVARAnCANDRABINDUjUBJOINED LETTER AzBAzCAzbHAzDAzbZAzGAzHAzJAzKA",
    "zbHAzLAzMAzNAzbGAzbYAzPAzbHAzRAzSAzbHAzTAzbHAzbSAzcHAzWAzYAzZAzbHAiVOWEL SIGN AAtEtItOtU",
    "dRIAGE SYMBOLdTIAL ARTS UNIFORMcSARAM GONDI DIGIT EIGHTuFIVEvOURuNINEuONEuSEVENvIXuTHREEvWO",
    "uZEROoLETTER AwAwIwUvBAwHAvCAwHAvDAwDAxHAwHAvEvGAwHAvHAvIwIvJAwHAwNYAvKAwHAwSSAvLAwLAvMAvNA",
    "wGAwNAwYAvOvPAwHAvRAvSAwHAwSAvTAwHAwRAwTAxHAvUwUvVAvYAoRA-KARApEPHAoSIGN ANUSVARAtCANDRA",
    "tHALANTAtNUKTAtVISARGAoVIRAMApOWEL SIGN AAzbIzbUzEzIzbIzOzUzbUzVOCALIC R",
    "dCULINE ORDINAL INDICATORdK WORK SYMBOLdU MARKcTE DRINKdHEMATICAL BOLD CAPITAL AzcLPHAzbB",
    "zcETAzbCzcHIzbDzcELTAzcIGAMMAzbEzcPSILONzcTAzbFzbGzcAMMAzbHzbIzcOTAzbJzbKzcAPPAzbLzcAMDAzbM",
    "zcUzbNzcUzbOzcMEGAzdICRONzbPzcHIzcIzcSIzbQzbRzcHOzbSzcIGMAzbTzcAUzcHETAzg SYMBOLzbUzcPSILON",
    "zbVzbWzbXzcIzbYzbZzcETAsDIGIT EIGHTyFIVEzOURyNINEyONEySEVENzIXyTHREEzWOyZEROsEPSILON SYMBOL",
    "sFRAKTUR CAPITAL AzjBzjCzjDzjEzjFzjGzjHzjIzjJzjKzjLzjMzjNzjOzjPzjQzjRzjSzjTzjUzjVzjWzjXzjY",
    "zjZzbSMALL AzhBzhCzhDzhEzhFzhGzhHzhIzhJzhKzhLzhMzhNzhOzhPzhQzhRzhSzhTzhUzhVzhWzhXzhYzhZ",
    "sITALIC CAPITAL AzjLPHAziBzjETAziCzjHIziDzjELTAziEzjPSILONzjTAziFziGzjAMMAziHziIzjOTAziJziK",
    "zjAPPAziLzjAMDAziMzjUziNzjUziOzjMEGAzkICRONziPzjHIzjIzjSIziQziRzjHOziSzjIGMAziTzjAUzjHETA",
    "zn SYMBOLziUzjPSILONziVziWziXzjIziYziZzjETAzEPSILON SYMBOLzKAPPA SYMBOLzNABLA",
    "zPARTIAL DIFFERENTIALzbHI SYMBOLzbI SYMBOLzRHO SYMBOLzSMALL AzhLPHAzgBzhETAzgCzhHIzgDzhELTA",
    "zgEzhPSILONzhTAzgFzhINAL SIGMAzgGzhAMMAzgHzgIzhOTAzgJzgKzhAPPAzgLzhAMDAzgMzhUzgNzhUzgOzhMEGA",
    "ziICRONzgPzhHIzhIzhSIzgQzgRzhHOzgSzhIGMAzgTzhAUzhHETAzgUzhPSILONzgVzgWzgXzhIzgYzgZzhETA",
    "zTHETA SYMBOLsKAPPA SYMBOLsNABLAsPARTIAL DIFFERENTIALtHI SYMBOLtI SYMBOLsRHO SYMBOL",
    "sSCRIPT CAPITAL AziBziCziDziEziFziGziHziIziJziKziLziMziNziOziPziQziRziSziTziUziVziWziXziYziZ",
    "zSMALL AzgBzgCzgDzgEzgFzgGzgHzgIzgJzgKzgLzgMzgNzgOzgPzgQzgRzgSzgTzgUzgVzgWzgXzgYzgZtMALL A",
    "zLPHAyBzETAyCzHIyDzELTAzIGAMMAyEzPSILONzTAyFzINAL SIGMAyGzAMMAyHyIzOTAyJyKzAPPAyLzAMDAyMzUyN",
    "zUyOzMEGAzbICRONyPzHIzIzSIyQyRzHOySzIGMAyTzAUzHETAyUzPSILONyVyWyXzIyYyZzETAsTHETA SYMBOL",
    "nDOUBLE-STRUCK CAPITAL AzkBzkDzkEzkFzkGzkIzkJzkKzkLzkMzkOzkSzkTzkUzkVzkWzkXzkYzcDIGIT EIGHT",
    "ziFIVEzjOURziNINEziONEziSEVENzjIXziTHREEzjWOziZEROzcSMALL AziBziCziDziEziFziGziHziIziJziKziL",
    "ziMziNziOziPziQziRziSziTziUziVziWziXziYziZnFALLING DIAGONALoRAKTUR CAPITAL AzeBzeDzeEzeFzeG",
    "zeJzeKzeLzeMzeNzeOzePzeQzeSzeTzeUzeVzeWzeXzeYvSMALL AzcBzcCzcDzcEzcFzcGzcHzcIzcJzcKzcLzcMzcN",
    "zcOzcPzcQzcRzcSzcTzcUzcVzcWzcXzcYzcZnITALIC CAPITAL AzeLPHAzdBzeETAzdCzeHIzdDzeELTAzdE",
    "zePSILONzeTAzdFzdGzeAMMAzdHzdIzeOTAzdJzdKzeAPPAzdLzeAMDAzdMzeUzdNzeUzdOzeMEGAzfICRONzdPzeHI",
    "zeIzeSIzdQzdRzeHOzdSzeIGMAzdTzeAUzeHETAzi SYMBOLzdUzePSILONzdVzdWzdXzeIzdYzdZzeETA",
    "uEPSILON SYMBOLuKAPPA SYMBOLuNABLAuPARTIAL DIFFERENTIALvHI SYMBOLvI SYMBOLuRHO SYMBOL",
    "uSMALL AzcLPHAzbBzcETAzbCzcHIzbDzcELTAzcOTLESS IzjJzbEzcPSILONzcTAzbFzcINAL SIGMAzbGzcAMMA",
    "zbIzcOTAzbJzbKzcAPPAzbLzcAMDAzbMzcUzbNzcUzbOzcMEGAzdICRONzbPzcHIzcIzcSIzbQzbRzcHOzbSzcIGMA",
    "zbTzcAUzcHETAzbUzcPSILONzbVzbWzbXzcIzbYzbZzcETAuTHETA SYMBOLnLEFT ANGLE BRACKET",
    "sDOUBLE ANGLE BRACKETsFLATTENED PARENTHESISsWHITE SQUARE BRACKETyTORTOISE SHELL BRACKET",
    "nMONOSPACE CAPITAL AzgBzgCzgDzgEzgFzgGzgHzgIzgJzgKzgLzgMzgNzgOzgPzgQzgRzgSzgTzgUzgVzgWzgXzgY",
    "zgZxDIGIT EIGHTzeFIVEzfOURzeNINEzeONEzeSEVENzfIXzeTHREEzfWOzeZEROxSMALL AzeBzeCzeDzeEzeFzeG",
    "zeHzeIzeJzeKzeLzeMzeNzeOzePzeQzeRzeSzeTzeUzeVzeWzeXzeYzeZnRIGHT ANGLE BRACKET",
    "tDOUBLE ANGLE BRACKETtFLATTENED PARENTHESIStWHITE SQUARE BRACKETzTORTOISE SHELL BRACKET",
    "pSING DIAGONALnSANS-SERIF BOLD CAPITAL AznLPHAzmBznETAzmCznHIzmDznELTAzmEznPSILONznTAzmFzmG",
    "znAMMAzmHzmIznOTAzmJzmKznAPPAzmLznAMDAzmMznUzmNznUzmOznMEGAzoICRONzmPznHIznIznSIzmQzmRznHO",
    "zmSznIGMAzmTznAUznHETAzr SYMBOLzmUznPSILONzmVzmWzmXznIzmYzmZznETAzeDIGIT EIGHTzkFIVEzlOUR",
    "zkNINEzkONEzkSEVENzlIXzkTHREEzlWOzkZEROzeEPSILON SYMBOLzeITALIC CAPITAL AzuLPHAztBzuETAztC",
    "zuHIztDzuELTAztEzuPSILONzuTAztFztGzuAMMAztHztIzuOTAztJztKzuAPPAztLzuAMDAztMzuUztNzuUztO",
    "zuMEGAzvICRONztPzuHIzuIzuSIztQztRzuHOztSzuIGMAztTzuAUzuHETAzy SYMBOLztUzuPSILONztVztWztXzuI",
    "ztYztZzuETAzlEPSILON SYMBOLzlKAPPA SYMBOLzlNABLAzlPARTIAL DIFFERENTIALzmHI SYMBOLzmI SYMBOL",
    "zlRHO SYMBOLzlSMALL AzsLPHAzrBzsETAzrCzsHIzrDzsELTAzrEzsPSILONzsTAzrFzsINAL SIGMAzrGzsAMMA",
    "zrHzrIzsOTAzrJzrKzsAPPAzrLzsAMDAzrMzsUzrNzsUzrOzsMEGAztICRONzrPzsHIzsIzsSIzrQzrRzsHOzrS",
    "zsIGMAzrTzsAUzsHETAzrUzsPSILONzrVzrWzrXzsIzrYzrZzsETAzlTHETA SYMBOLzeKAPPA SYMBOLzeNABLA",
    "zePARTIAL DIFFERENTIALzfHI SYMBOLzfI SYMBOLzeRHO SYMBOLzeSMALL AzlLPHAzkBzlETAzkCzlHIzkD",
    "zlELTAzkEzlPSILONzlTAzkFzlINAL SIGMAzkGzlAMMAzkHzkIzlOTAzkJzkKzlAPPAzkLzlAMDAzkMzlUzkNzlUzkO",
    "zlMEGAzmICRONzkPzlHIzlIzlSIzkQzkRzlHOzkSzlIGMAzkTzlAUzlHETAzkUzlPSILONzkVzkWzkXzlIzkYzkZ",
    "zlETAzeTHETA SYMBOLyCAPITAL AzhBzhCzhDzhEzhFzhGzhHzhIzhJzhKzhLzhMzhNzhOzhPzhQzhRzhSzhTzhUzhV",
    "zhWzhXzhYzhZyDIGIT EIGHTzfFIVEzgOURzfNINEzfONEzfSEVENzgIXzfTHREEzgWOzfZEROyITALIC CAPITAL A",
    "zoBzoCzoDzoEzoFzoGzoHzoIzoJzoKzoLzoMzoNzoOzoPzoQzoRzoSzoTzoUzoVzoWzoXzoYzoZzgSMALL AzmBzmC",
    "zmDzmEzmFzmGzmHzmIzmJzmKzmLzmMzmNzmOzmPzmQzmRzmSzmTzmUzmVzmWzmXzmYzmZySMALL AzfBzfCzfDzfEzfF",
    "zfGzfHzfIzfJzfKzfLzfMzfNzfOzfPzfQzfRzfSzfTzfUzfVzfWzfXzfYzfZoCRIPT CAPITAL AzdCzdDzdGzdJzdK",
    "zdNzdOzdPzdQzdSzdTzdUzdVzdWzdXzdYzdZuSMALL AzbBzbCzbDzbFzbHzbIzbJzbKzbLzbMzbNzbPzbQzbRzbSzbT",
    "zbUzbVzbWzbXzbYzbZcXIMIZEcYAN NUMERAL EIGHTtEENpLEVENoFIFTEENqVEpOURsTEENoNINEsTEENoONE",
    "oSEVENtTEENpIXrTEENoTENpHIRTEENqREEpWELVEqOoZERObEASURED ANGLEo OPENING LEFT",
    "pWITH OPEN ARM ENDING IN ARROW POINTING DOWN AND LEFTzznRIGHTzzeLEFT AND DOWNzznUP",
    "zzeRIGHT AND DOWNzzoUPzzeUP AND LEFTzzlRIGHTjBYjRIGHT ANGLE WITH DOTdT ON BONEcCHANICAL ARM",
    "lLEGcDEFAIDRIN CAPITAL LETTER AzdIzdTIUzcBzcCzcDzcEzcFzcGzcHzdPzcIzcJzcKzdPzcLzcMzcNzdGzdY",
    "zcOzdEzcPzcQzcRzcSzcTzcUzcVzcWzcXzcYzdUzcZnOMMAmDIGIT EIGHTsFIVEtOURsNINEsONE",
    "v ALTERNATE FORMsSEVENtIXsTHREEx ALTERNATE FORMtWOv ALTERNATE FORMsZEROmEXCLAMATION OH",
    "mFULL STOPmNUMBER EIGHTEENuLEVENtFIFTEENuOURTEENtNINETEENtSEVENTEENuIXTEENtTENuHIRTEENuWELVE",
    "mSMALL LETTER AzbIzbTIUzBzCzDzEzFzGzHzbPzIzJzKzbPzLzMzNzbGzbYzOzbEzPzQzRzSzTzUzVzWzXzYzbUzZ",
    "nYMBOL AIVAdIEVAL COMMAjEXCLAMATION MARKjQUESTION MARKeUM BLACK CIRCLEiOLD WHITE CIRCLE",
    "hEIGHT POINTED BLACK STARnSPOKED ASTERISKhFIVE SPOKED ASTERISK",
    "iLATTENED LEFT PARENTHESIS ORNAMENTrRIGHT PARENTHESIS ORNAMENTiOUR POINTED BLACK STAR",
    "uPINWHEEL STARhGREEK CROSShLEFT CURLY BRACKET ORNAMENTmPARENTHESIS ORNAMENT",
    "l-POINTING ANGLE BRACKET ORNAMENThMATHEMATICAL SPACEhRIGHT CURLY BRACKET ORNAMENT",
    "nPARENTHESIS ORNAMENTm-POINTING ANGLE BRACKET ORNAMENThSALTIREiHADEiIX POINTED BLACK STAR",
    "lSPOKED ASTERISKiMALL WHITE CIRCLEhTHREE POINTED BLACK STARvPINWHEEL STARhVERTICAL BAR",
    "hWHITE CIRCLEnSQUAREcETEI MAYEK AHANG KHUDAMoNJIoPUN IYEKnCHEIKHANtEInDIGIT EIGHTtFIVEuOUR",
    "tNINEtONEtSEVENuIXtTHREEuWOtZEROnLETTER ATIYAuBAvHAMuCHAwILuDDAwHAvHOUvILuEuGHOUvOKuHUKuI",
    "v LONSUMuJHAMvILuKHOUvOKx LONSUMuLAIx LONSUMuMITx LONSUMuNAw LONSUMvGOUy LONSUMvNAvYAuOuPA",
    "w LONSUMvHAMuRAIuSAMvHAvSAuTHOUvILx LONSUMvTAwHAuUNuWAIuYANGoUM IYEK",
    "nSYLLABLE REPETITION MARKnVIRAMAoOWEL SIGN AAIzbUzNAPzUyCHEINAPyIIzNAPyNUNGyONAPySOUNAPyUNAP",
    "zUyVISARGAyYENAPnWORD REPETITION MARKcLONdTING FACEcMO",
    "cNDE KIKAKUI COMBINING NUMBER HUNDRED THOUSANDSznSzgMILLIONSzgTEENSziN THOUSANDSzjS",
    "zhHOUSANDSoDIGIT EIGHTuFIVEvOURuNINEuONEuSEVENvIXuTHREEvWOoSYLLABLE M001 KIzb2 KAzb3 KU",
    "zb4 WIzb5 WAzb6 WUzb7 MINzb8 MANzb9 MUNz10 BIzb1 BAzb2 BUzb3 Izb4 Azb5 Uzb6 DIzb7 DAzb8 DU",
    "zb9 SIz20 SAzb1 SUzb2 TIzb3 TAzb4 TUzb5 LIzb6 LAzb7 LUzb8 JIzb9 JAz30 JUzb1 YIzb2 YAzb3 YU",
    "zb4 FIzb5 FAzb6 FUzb7 NINzb8 NANzb9 NUNz40 HEEzb1 HAzb2 HOOzb3 NGGAzb4 KPEEzb5 WOzb6 HUAN",
    "zb7 MBEEzb8 KOzb9 WVAz50 PUzb1 PEzb2 HENzb3 HINzb4 LOOzb5 TEzb6 GBAzb7 NGONzb8 NYANzb9 MEN",
    "z60 NYONzb1 WVIzb2 MBAzb3 JOzb4 NDOzb5 KEEzb6 POzb7 NDOOzb8 PIzb9 TOz70 GBOzb1 GBOOzb2 MBE",
    "zb3 LEzb4 KPUzb5 FEzb6 KOOzb7 VOzb8 FEEzb9 SOz80 YEzb1 PEEzb2 NGGUzb3 HEEIzb4 LEEzb5 VE",
    "zb6 LONG NGGEzb7 HUNzb8 FOzb9 DEEz90 NGGIzb1 TEEzb2 KPAzb3 GBEEzb4 MONzb5 KEzb6 HEzb7 BE",
    "zb8 NYENzb9 PAy100 Ezb1 FANzb2 POOzb3 BOOzb4 TOOzb5 LONG MBOOzb6 LONG NGGOOzb7 GBEzb8 KPE",
    "zb9 YEEz10 LONG LEzb1 GAzb2 KPOOzb3 JEzb4 WOOzb5 NGGEEzb6 SEzb7 NENzb8 WEzb9 NDEz20 NGGO",
    "zb1 YOzb2 MBUzb3 NDIzb4 GBIzb5 NDUzb6 WEEzb7 NGGUAzb8 HOOUzb9 NDAz30 HANzb1 INzb2 KPIzb3 FOO",
    "zb4 NJOOzb5 INzb6 SOOzb7 EIzb8 BOzb9 WVEz40 HOzb1 YOOzb2 LONG MBOzb3 WEIzb4 VOOzb5 MBI",
    "zb6 NGGEzb7 Ozb8 GBUzb9 NJEEz50 BEEzb1 VUzb2 NJAzb3 LOzb4 MUANzb5 GIzb6 NGGOOzb7 JEEzb8 KPO",
    "zb9 NGGAAz60 JOOzb1 LONG MBEzb2 SEEzb3 EEzb4 NYINzb5 OOzb6 GUEIzb7 GUANzb8 GUzb9 NONz70 NYUN",
    "zb1 RAzb2 MBOOzb3 VEEzb4 MBOzb5 LONG JOzb6 HIzb7 NGUANzb8 ENzb9 KUAz80 DOOzb1 DOzb2 VI",
    "zb3 LONG NGGOzb4 NGENzb5 VAzb6 HUzb7 MBUUzb8 MBEEzb9 MUENz90 GEEzb1 NDEEzb2 NJUzb3 HON",
    "zb4 WUIzb5 ANzb6 SIAzb7 FUAdORAH WITH NINE BRANCHESdS SYMBOLcRCURY",
    "dOITIC CURSIVE FRACTION EIGHT TWELFTHSzcLEVEN TWELFTHSzbFIVE TWELFTHSzcOUR TWELFTHS",
    "zbNINE TWELFTHSzbONE HALFzfTWELFTHzbSEVEN TWELFTHSzcIX TWELFTHSzbTEN TWELFTHSzcHREE TWELFTHS",
    "zcWO TWELFTHSrLETTER AzRCHAIC SAyBAyDAyEyHHAyIyKAzHAyLAyMAyNAzEyOyPAyQAyRAySAzEyTAzEzOyWAyYA",
    "sOGOGRAM IMNzbRMTrNUMBER EIGHTze HUNDREDzm THOUSANDzfTHOUSANDzeY THOUSANDyFIFTYze THOUSAND",
    "zbVEzd HUNDREDzl THOUSANDzeTHOUSANDzORTYze THOUSANDzbURzd HUNDREDzl THOUSANDzeTHOUSANDyNINE",
    "zd HUNDREDzl THOUSANDzeTHOUSANDzdTY THOUSANDyONEzc HUNDREDzk THOUSANDzdTHOUSANDySEVEN",
    "ze HUNDREDzm THOUSANDzfTHOUSANDzeTYzg THOUSANDzIXzc HUNDREDzk THOUSANDzdTHOUSANDzcTY",
    "ze THOUSANDyTENzc THOUSANDzHIRTYzf THOUSANDzbREEze HUNDREDzm THOUSANDzfTHOUSANDzWENTY",
    "zf THOUSANDzbOzc HUNDREDzk THOUSANDzdTHOUSANDjHIEROGLYPHIC LETTER AzeBAzg-2zeDAzeEzeHHAzeI",
    "zeKAzfHAzeLAzeMAzeNAzg-2zfEzg-2zeOzePAzeQAzeRAzg-2zeSAzg-2zfEzeTAzg-2zfEzg-2zfOzeWAzeYA",
    "wSYMBOL VIDJzi-2dPERSONcSSAGE WAITINGcTRICAL BREVEjLONG OVER SHORTtTWO SHORTSjPENTASEME",
    "jSHORT OVER LONGjTETRASEMEkRISEMEkWO SHORTS JOINEDuOVER LONGeObIAO LETTER AHnRCHAIC MAuNAvGA",
    "uZZAmBAnRImDAnDAnLHApYAnZAoHAoYIoZAmFAmGAnHAoHAmHAnHAmKAmLAnHAoYAnYAmMAnHAmNAoSALIZATIONnGA",
    "oHAnHAnNAoHAnYAoHAmPAnLAmQAnGAmREFORMED TONE-1zb2zb4zb5zb6zb8wSHAnTEmSAnHAnSAnYImTAnEnLHApYA",
    "nONE-2r3r4r5r6r7r8nSAoEoHAoSAnTAmVAnFAmWAmXAmYI DZHApKApNNApPApTAqSArHAqTAmZAnHAnSAoHAnZAoSA",
    "pYAoYAfSIGN ASPIRATIONkCONSONANT MODIFIER BARkREFORMED ASPIRATIONtVOICINGfTONE ABOVEkBELOW",
    "kRIGHTkTOP RIGHTfVOWEL SIGN ArArEsErHHrIrNsGrUqErArIrNsGrRsRqIrAsNtGrErGrIrNGrOsNGrUqNrGqO",
    "rERsYrGrOrUqROUNDED ERzbRqUrAsNtGrEIrIrNGrOGrUqVWqWrOqYrIrUIcCR DASH SYMBOLfON US SYMBOL",
    "eO SIGNfBEfPHONEfSCOPEcDDLE DOThTHIRD WHITE RIGHT POINTING INDEXdLINE HORIZONTAL ELLIPSIS",
    "cLITARY HELMETjMEDALdKY WAYdL SIGNcNIBUSeDISCeMIZEdUS SIGNk IN TRIANGLElWITH COMMA ABOVE",
    "qDOT BELOWqFALLING DOTSqRISING DOTSgTILDEf-OR-PLUS SIGNdYcRRORg BALLbMSPbOBILE PHONEm OFF",
    "nWITH RIGHTWARDS ARROW AT LEFTcDELSeRN PENTATHLONdI ABBREVIATION SIGNfDANDAgIGIT EIGHTlFIVE",
    "mOURlNINElONElSEVENmIXlTHREEmWOlZEROgOUBLE DANDAfLETTER AnAnInUmBAnHAmCAnHAmDAnDAoHAnHAmEmGA",
    "nHAmHAmInImJAnHAmKAnHAmLAnLAmMAmNAnGAnNAnYAmOmPAnHAmRAmSAnHAnSAmTAnHAnTAoHAmUnUmVAnOCALIC L",
    "vLuRvRmYAfSIGN ANUSVARAlRDHACANDRAkHUVAkVIRAMAmSARGAfVOWEL SIGN AArIrUqEqIrIqOqUrUqVOCALIC L",
    "zLyRzReFIER BREVE WITH INVERTED BREVEjLETTER ACUTE ACCENTrLVEOLAR CLICKrPOSTROPHE",
    "qBEGIN HIGH TONEwLOW TONErILABIAL CLICKqCAPITAL AzEyBzARRED ByCyDyEyFyGyHz WITH STROKEyIyJyK",
    "yLyMyNyOzUyPyQyRzEVERSED EziNyTyUyVyWrENTRED LEFT HALF RINGyRIGHT HALF RING",
    "rHINESE TONE YANG PINGzjQUzjRUzjSHANGzfIN PINGziQUziRUziSHANGrIRCUMFLEX ACCENTrOLON",
    "rROSS ACCENTrYRILLIC ENzHARD SIGNzSOFT SIGNqDENTAL CLICKrOT HORIZONTAL BARuSLASH",
    "uVERTICAL BARsUBLE APOSTROPHExPRIMEsWN ARROWHEADvTACKqEND HIGH TONEuLOW TONE",
    "rXTRA-HIGH DOTTED LEFT-STEM TONE BARzjTONE BARzcLEFT-STEM TONE BARzcTONE BAR",
    "wLOW DOTTED LEFT-STEM TONE BARziTONE BARzbLEFT-STEM TONE BARzbTONE BARqGEORGIAN NAR",
    "rLOTTAL STOPzd WITH STROKErRAVE ACCENTqHALF TRIANGULAR COLONrIGH DOTTED LEFT-STEM TONE BAR",
    "zdTONE BARvLEFT-STEM TONE BARvTONE BARqLATERAL CLICKrEFT ARROWHEADvHALF RINGvTACK",
    "rOW ACUTE ACCENTuCIRCUMFLEX ACCENTuDOTTED LEFT-STEM TONE BARzcTONE BARwWN ARROWHEAD",
    "uGRAVE ACCENTuINVERTED EXCLAMATION MARKuLEFT ARROWzfHEADy-STEM TONE BARuMACRON",
    "uRIGHT ARROWHEADwNGuTILDEvONE BARuUP ARROWHEADuVERTICAL LINEtER RIGHT CORNER ANGLEqMACRON",
    "rID DOTTED LEFT-STEM TONE BARzcTONE BARuLEFT-STEM TONE BARuTONE BARtDLE DOUBLE ACUTE ACCENT",
    "zfGRAVE ACCENTxGRAVE ACCENTsNUS SIGNqOPEN SHELFqPLUS SIGNrRIMEqRAISED COLONxDOWN ARROW",
    "xEXCLAMATION MARKxINVERTED EXCLAMATION MARKxUP ARROWrETROFLEX CLICK WITH RETROFLEX HOOK",
    "sVERSED COMMAzGLOTTAL STOPzm WITH STROKErHOTIC HOOKrIGHT ARROWHEADwHALF RINGwTACKqSHELF",
    "sORT EQUALS SIGNrMALL AxExINxLPHAwBx WITH HOOKxARRED OxETAxOTTOM HALF OwCx WITH CURL",
    "xAPITAL AAzfBzfGzg WITH HOOKzfHzfIzg WITH STROKEzgNVERTED RzfLzg WITH BELTzfNzfOEzfRzfUzfY",
    "xHIxLOSED OMEGAzeREVERSED OPEN EwDx WITH HOOKzi AND TAILzeTAILxELTAyZH DIGRAPH",
    "xOTLESS J WITH STROKEzs AND HOOKxZ DIGRAPHzh WITH CURLznRETROFLEX HOOKwExNGxSHxTHxZHwF",
    "xENG DIGRAPHwGx WITH HOOKxAMMAxREEK GAMMAzdPHIwHx WITH HOOKzeSTROKExENGzb WITH HOOK",
    "wI WITH STROKExOTAwJx WITH CROSSED-TAILwKwLx WITH BELTzeINVERTED LAZY SzeMIDDLE TILDE",
    "zePALATAL HOOKzeRETROFLEX HOOKzs AND BELTxEZHzb WITH RETROFLEX HOOKxIGATURE OExS DIGRAPH",
    "xZ DIGRAPHwMx WITH HOOKwN WITH LEFT HOOKzeRETROFLEX HOOKwOx WITH STROKExPEN EzcOwPxHIwQwR",
    "x WITH FISHHOOKzeTAILxAMS HORNxEVERSED EzgGLOTTAL STOPzgOPEN EwSx WITH CURLzeHOOKxCHWA",
    "yRIPT GxIDEWAYS UwTx WITH PALATAL HOOKzeRETROFLEX HOOKxC DIGRAPH WITH CURLxESH DIGRAPHxHETA",
    "xOP HALF OxS DIGRAPHzh WITH RETROFLEX HOOKxURNED AzfEzfLPHAzeHzeIzeMzf WITH LONG LEGzeOPEN E",
    "zeRzf WITH HOOKzlLONG LEGzt AND RETROFLEX HOOKzeVzeWzeYzf WITH BELTwUx BARyWITH LEFT HOOK",
    "xPSILONwVx WITH HOOKzeRIGHT HOOKwWwXwYwZx WITH CURLzeRETROFLEX HOOKrTRESS AND HIGH TONE",
    "zcLOW TONErUPERSCRIPT HALF TRIANGULAR COLONzdTRIANGULAR COLONqTRIANGULAR COLONrURNED COMMA",
    "qUNASPIRATEDrP ARROWHEADtTACKrSqVERTICAL LINErOICINGqYANG DEPARTING TONE MARK",
    "rIN DEPARTING TONE MARKdULO TWO SUMcNEY BAGgWITH WINGSf-MOUTH FACEdGOLIAN BIRGA",
    "p WITH DOUBLE ORNAMENTvORNAMENTkCOLONmMMAkDIGIT EIGHTqFIVErOURqNINEqONEqSEVENrIXqTHREErWO",
    "qZEROlOUBLE BIRGA WITH ORNAMENTkELLIPSISkFOUR DOTSlREE VARIATION SELECTOR FOURzjONEzjTHREE",
    "zkWOlULL STOPkINVERTED BIRGAy WITH DOUBLE ORNAMENTkLETTER AsLI GALI AzcHzcNUSVARA ONE",
    "zbBALUDAzbCAzbDAzdGALGAzdMARUzcDAzbHALF UzgYAzbIzcNVERTED UBADAMAzbKAzbNGAzcNAzbPAzcHAzbSSA",
    "zbTAzcHREE BALUDAzcTAzdHAzbUBADAMAzbVISARGA ONEzbZAzcHAsNGrBArCHAu WITH TWO DOTStIrDArEsErFA",
    "rGArHAArIrJArKAsHArLAsHArMAtNCHU ALI GALI BHAziCAzjYAziDDHAzjHAziGHAziJHAziLHAziNGAziSSAziTA",
    "zjTAziZAzjHAyFAyIyKAyRAyZHArNArOsErPArQArRArSAsHAsIBE ANGwCHAwDAwEwFAwGAyAwHAyAwIxYwJAwKAwPA",
    "wRAAwSHAwTAxSAwUxEwZAxHArTAsODO ALI GALI TAzgZHAxNGwBAwCHAwDAxZAwEwGAyAwHAAwIwJAxIAwKA",
    "wLONG VOWEL SIGNwMAwNIAwOxEwPAwQAwTAxSAwUxEwWAwYAsSArUsErWArYArZAsHIsRAkMANCHU COMMA",
    "rFULL STOPkNIRUGUkROTATED BIRGAx WITH DOUBLE ORNAMENTzeORNAMENT",
    "kSIBE SYLLABLE BOUNDARY MARKERlWIRL BIRGAv WITH DOUBLE ORNAMENTzcORNAMENTkTODO SOFT HYPHEN",
    "lRIPLE BIRGA WITH ORNAMENTlURNED SWIRL BIRGA WITH DOUBLE ORNAMENTkVOWEL SEPARATORdKEYg FACE",
    "dOGRAM FOR EARTHnYANGoINeRAILeSTABLE SYMBOLcOD BUBBLEdN CAKEfVIEWING CEREMONYcSQUEfITO",
    "cTHER CHRISTMASdOR BOATgSCOOTERfIZED WHEELCHAIRfWAYcUNT FUJIfAINi BICYCLISTjCABLEWAYjRAILWAY",
    "dSEf FACEgTRAPdTHcVIE CAMERAcYAIbRO DANDAfIGIT EIGHTkFIVElOURkNINEkONEkSEVENlIXkTHREElWO",
    "kZEROfOUBLE DANDAeLETTER AlBAlCHUlDAnIlEmAlHAInOlKEAAEmHAImOlLAnNlMAEMmIMlNGImINlOmLmOlPAmHI",
    "lRImOlSHIlTAmEKmHEAlWAlYObUCH GREATER-THANfLESS-THANcLTANI LETTER ApBAqHApCAqHApDAqDArDArHA",
    "qHApEpGAqHApHApIpJAqJApKAqHApLApMApNAqNAqYApPAqHApRAqHAqRApSApTAqHAqTArHApUpVApYA",
    "iSECTION MARKeIMAPfPLE MUSICAL NOTEShICATION SIGNt IN DOUBLE CIRCLExLEFT HALF CIRCLE",
    "xRIGHT HALF CIRCLExTRIANGLEuWITH DOT ABOVEzUNDERBARpXfSETi MULTIPLICATIONjUNIONcSHROOM",
    "dIC FLAT SIGNgNATURAL SIGNgSHARP SIGNfAL KEYBOARDq WITH JACKSiNOTEiSCORE",
    "jYMBOL ARPEGGIATO DOWNzbUPpBEGIN BEAMvPHRASEvSLURvTIEqRACEtKETrEATH MARKsVEtISv RESTpC CLEF",
    "qAESURAqIRCLE X NOTEHEADqLIMACUSsVISrUSTER NOTEHEAD BLACKzhWHITEqODArMBINING ACCENT",
    "zg-STACCATOzbUGMENTATION DOTzBENDzDOITzcUBLE TONGUEzcWN BOWzFLAG-1zf2zf3zf4zf5zcIPzHARMONIC",
    "zLOUREzMARCATOzh-STACCATOzRIPzSMEARzbNAP PIZZICATOzbPRECHGESANG STEMzbTACCATISSIMOzhOzcEM",
    "zTENUTOzbREMOLO-1zi2zi3zcIPLE TONGUEzUP BOWsMON TIMEqRESCENDOrOIXqUT TIMEpDA CAPOrL SEGNOrMP",
    "t ALLrSHED BARLINEqECRESCENDOrGREE SLASHqOUBLE BARLINEwFLATwSHARPqRUM CLEF-1z2pEIGHTH NOTE",
    "wRESTqND BEAMtOF STIMMEtPHRASEtSLURtTIEpF CLEFv OTTAVA ALTAzeBASSAqERMATAw BELOW",
    "qINAL BARLINEsGERED TREMOLO-1zh2zh3rVE-LINE STAFFqLAT DOWNuUPqORTErUR-LINE STAFF",
    "uSTRING FRETBOARDqUSA BLACKuWHITEpG CLEFv OTTAVA ALTAzeBASSAqLISSANDO DOWNzUP",
    "qRACE NOTE NO SLASHzbSLASHrEGORIAN C CLEFzF CLEFpHALF NOTEuPEDAL MARKuRESTrUPTSTIMME",
    "pINVERTED TURNpKIEVAN C CLEFwEIGHTH NOTE STEM DOWNzoUPxND OF PIECEwFINAL NOTExLAT SIGN",
    "wHALF NOTEwQUARTER NOTE STEM DOWNzpUPwRECITATIVE MARKwWHOLE NOTEqORONpLEFT REPEAT SIGNqONGA",
    "u IMPERFECTA RESTvPERFECTA RESTpMAXIMAqEZZOqINIMAv BLACKwRESTqOON NOTEHEAD BLACKzeWHITE",
    "qULTI RESTuPLE MEASURE RESTpNATURAL DOWNxUPqEBENSTIMMEqOTEHEAD BLACKqULL NOTEHEAD",
    "pONE HUNDRED TWENTY-EIGHTH NOTEzqRESTs-LINE STAFFqRNAMENT STROKE-1zh0zh1zg2zg3zg4zg5zg6zg7",
    "zg8zg9qTTAVA ALTAwBASSApPARENTHESIS NOTEHEADqEDAL MARKvUP MARKrS SUBPUNCTISqIANO",
    "qLUS NOTEHEADqODATUSrRRECTUSy FLEXUSpQUARTER NOTExRESTxTONE FLATzdSHARPrINDICESIMA ALTA",
    "zdBASSApREPEAT DOTSvED FIGURE-1zg2zg3rVERSE FINAL BARLINEqIGHT REPEAT SIGNrNFORZANDO",
    "pSCANDICUSy FLEXUSqEGNOrMIBREVIS BLACKzbRESTzbWHITEtMINIMA BLACKzbRESTzbWHITEqHARP DOWNvUP",
    "rORT BARLINEqINGLE BARLINErX-LINE STAFFtSTRING FRETBOARDsTEENTH NOTEzRESTtY-FOURTH NOTE",
    "zdRESTqORIqQUARE BwNOTEHEAD BLACKzgWHITEqUBITOpTEMPUS IMPERFECTUM CUM PROLATIONE IMPERFECTA",
    "zzj DIMINUTION-1zzv2zzv3zyPERFECTAwPERFECTUM CUM PROLATIONE IMPERFECTAzwPERFECTA",
    "zzf DIMINUTION-1qHIRTY-SECOND NOTEzeRESTrREE-LINE STAFFqORCULUSx RESUPINUSqR",
    "rIANGLE NOTEHEAD DOWN BLACKznWHITEziLEFT BLACKznWHITEziRIGHT BLACKzoWHITEziUP BLACK",
    "zlRIGHT BLACKzrWHITEzlWHITEx-ROUND NOTEHEAD DOWN BLACKztWHITEqURNt SLASHuUPqWO-LINE STAFF",
    "pVIRGAqOID NOTEHEADpWHOLE NOTEvRESTqITH FINGERNAILSpX NOTEHEADpZbVSbW",
    "bYANMAR CONSONANT SIGN MEDIAL HAzfRAzfWAzfYAyON MEDIAL LAzjMAzjNAxSHAN MEDIAL WAiDIGIT EIGHT",
    "oFIVEpOURoNINEoONEoSEVENpIXoTHREEpWOoZEROiLETTER AqITON RAqUpBAqHApCAqHApDAqDArHAqHApE",
    "qASTERN PWO KAREN GHWAziNNAziYWApGAqHAqREAT SApHApIqIpJAqHApKAqHAsMTI CAxHAwDDAyHAxHAwFAwGA",
    "wHAxHAwJAxHAwLLAwNAxYAwRAwSAwTTAyHAwXAwZApLAqLApMAqON BBAvEtEtJHAtNGApNAqGAqNArYAqYApOpPAqHA",
    "pRAqUMAI PALAUNG FApSAqGAW KAREN SHAqHAsN AuBAvHAuCAvHAuDAuFAuGAvHAuHAuJHAuKAvHAuNAvNAvYA",
    "uPHAuTHAuZArWE PALAUNG CHAzdSHAqSApTArI LAING BAzbHAzDAzbDAzcHAzbHAzFAzGAzbHAzJAzbHAzLLAzNNA",
    "zbYAqHAqTArHApUqUpVOCALIC LyLxRyRpWAqESTERN PWO KAREN PWAziTHApYAjOGOGRAM KHAMTI HMyOAYyQN",
    "iMODIFIER LETTER KHAMTI REDUPLICATIONySHAN REDUPLICATIONiSHAN DIGIT EIGHTtFIVEuOURtNINEtONE",
    "tSEVENuIXtTHREEuWOtZEROjIGN ANUSVARAoSATnDOT BELOWnKHAMTI TONE-1z3nLITTLE SECTION",
    "nPAO KAREN TONEnRUMAI PALAUNG TONE-5nSECTIONoHAN COUNCIL EMPHATIC TONEzbTONE-2zg3sSAWsTONE-2",
    "x3x5x6nTAI LAING TONE-2zd5nVIRAMApSARGAnWESTERN PWO KAREN TONE-1zl2zl3zl4zl5",
    "jYMBOL AFOREMENTIONEDqITON EXCLAMATIONvONEvTWOpCOMPLETEDpGENITIVEpLOCATIVEpSHAN EXCLAMATION",
    "uONEiTAI LAING DIGIT EIGHTyFIVEzOURyNINEyONEySEVENzIXyTHREEzWOyZERO",
    "jONE MARK SGAW KAREN HATHIzeKE PHOiVOWEL SIGN AAuIvTON AzbItEu ABOVEtGEBA KAREN ItIuI",
    "tKAYAH EEzOEzUtMON IIxOtSGAW KAREN EUuHAN AAyEz ABOVEyFINAL YtTALL AAtUuUtVOCALIC LzdLzcRzdR",
    "tWESTERN PWO KAREN EUzmUEaN-ARY CIRCLED DOT OPERATORoPLUS OPERATORoTIMES OPERATORhOPRODUCT",
    "gINTERSECTIONgLOGICAL ANDoORgPRODUCTgSQUARE INTERSECTION OPERATORnUNION OPERATORhUMMATION",
    "gTIMES OPERATORgUNIONl OPERATOR WITH DOTzbPLUSgWHITE VERTICAL BAR",
    "bABATAEAN CRUCIFORM NUMBER FOURkLETTER ALEPHsYINrBETHrDALETHrFINAL ALEPHxBETHxHExKAPHxLAMEDH",
    "xMEMxNUNxSHINxYODHrGIMELrHEtTHrKAPHrLAMEDHrMEMrNUNrPErQOPHrRESHrSADHEtMEKHsHINrTAWsETHrWAW",
    "rYODHrZAYINkNUMBER FIVEsOURrONEu HUNDREDrTENsHREEsWENTYtOdLAcIL POLISHdRA SIGNcKcME BADGEcND",
    "eINAGARI HEADSTROKEmLETTER AuAuIuUtBAuHAtCAuHAtDAuDAvHAuHAtEtGAuHAtHAtIuItJAuHAtKAuHAtLAuLA",
    "tMAtNAuGAuNAuYAtOtPAuHAtRAuRAtSAuHAuSAtTAuHAuTAvHAtUuUtVAuOCALIC RzdRtYAmSIGN ANUSVARA",
    "sVAGRAHArSIDDHAMrVIRAMAtSARGAmVOWEL SIGN AAyIyUxExIyIxOxPRISHTHAMATRA ExUyUxVOCALIC RzhR",
    "cRROW NO-BREAK SPACEcTIONAL DIGIT SHAPESjPARKcUSEATED FACEcZAR AMULETbBHcSPbECKTIE",
    "cGATED DOUBLE VERTICAL BAR DOUBLE RIGHT TURNSTILEfIVE ACKNOWLEDGEjCIRCLED DIGIT ZERO",
    "rLATIN CAPITAL LETTER AznBznCznDznEznFznGznHznIznJznKznLznMznNznOznPznQznRznSznTznUznVznWznX",
    "znYznZrNUMBER EIGHTEENzLEVENyFIFTEENzOURTEENyNINETEENySEVENTEENzIXTEENyTHIRTEENzWELVEzcNTY",
    "rSQUARErTRIANGLEjDIAGONAL CROSSsDIAMONDsMIDDLE RIGHT TO LOWER CENTREjSQUARED ABrCROSS MARK",
    "rICrLATIN CAPITAL LETTER AznBznCznDznEznFznGznHznIznJznKznLznMznNznOznPznQznRznSznTznUznVznW",
    "znXznYznZrPArQUESTION MARKrSArWCcITHER A SUBSET OF NOR EQUAL TOmPERSET OF NOR EQUAL TO",
    "jPPROXIMATELY NOR ACTUALLY EQUAL TOiGREATER-THAN NOR EQUAL TOzdIVALENT TOzLESS-THAN",
    "iLESS-THAN NOR EQUAL TOzIVALENT TOwGREATER-THANcLcPTUNEh FORM TWOcRD FACEcSSUSdT WITH EGGS",
    "eING DOLLScUTEReRAL CHESS BISHOPu ROTATED NINETY DEGREESzeTWO HUNDRED SEVENTY DEGREES",
    "oEQUIHOPPERy ROTATED NINETY DEGREESoKINGs ROTATED NINETY DEGREES",
    "zcTWO HUNDRED SEVENTY DEGREESpNIGHTu ROTATED FORTY-FIVE DEGREESzeNINETY DEGREES",
    "zeONE HUNDRED THIRTY-FIVE DEGREESzeTHREE HUNDRED FIFTEEN DEGREESzfWO HUNDRED SEVENTY DEGREES",
    "zqTWENTY-FIVE DEGREESoPAWNs ROTATED NINETY DEGREESzcTWO HUNDRED SEVENTY DEGREESoQUEEN",
    "t ROTATED NINETY DEGREESzdTWO HUNDRED SEVENTY DEGREESoROOKs ROTATED NINETY DEGREES",
    "zcTWO HUNDRED SEVENTY DEGREESoTURNED BISHOPvKINGwNIGHTvPAWNvQUEENvROOKiFACEcW LINE",
    "eMOON SYMBOLjWITH FACEeSHEQEL SIGNeTAI LUE DIGIT EIGHTsFIVEtOURsNINEsONEsSEVENtIXsTHREEtWO",
    "sZEROmLETTER FINAL BzDzKzMzNzbGzVtHIGH BAyDAyFAyHAyKAzVAyLAyMAyNAzGAyPAzHAyQAySAzUAyTAzHAzSA",
    "yVAyXAzVAyYAtLOW BAxDAxFAxHAxKAyVAxLAxMAxNAyGAxPAyHAxQAxSAyUAxTAyHAySAxVAxXAyVAxYAmSIGN LAE",
    "uVmTHAM DIGIT ONEnONE MARK-1w2mVOWEL SIGN AAzYyEyYxExIIyYxOyAzYyYxUyEzYyUyYxVOWEL SHORTENER",
    "dA ABBREVIATION SIGNfCOMMAfDANDAgIGIT EIGHTlFIVEmOURlNINElONElSEVENmIXlTHREEmWOlZERO",
    "gOUBLE COMMAmDANDAfGAP FILLERfINSERTION SIGNfLETTER AnAnInUmBAnHAmCAnHAmDAnDAoHAnHAmEmGAnHA",
    "mHAmInImJAnHAmKAnHAmLAnHAmMAnHAmNAnGAoHAnHAnNAnYAoHAmOmPAnHAmRAnHAmSAnHAnSAmTAnHAnTAoHAmUnU",
    "mVEDIC ANUSVARAnOCALIC LvLuRvRmWAmYAfOMfPLACEHOLDER MARKfSANDHI MARKgIDDHIhGN ANUSVARA",
    "lVAGRAHAkCANDRABINDUkFINAL ANUSVARAkJIHVAMULIYAkNUKTAkUPADHMANIYAkVIRAMAmSARGAfVOWEL SIGN AA",
    "rIrUqEqIrIqOqUrUqVOCALIC LzLyRzRdLINE LEFTiRIGHTdSPAPERcXT LINEfPAGEbIGHT WITH STARScNJA",
    "bKO COMBINING DOUBLE DOT ABOVEoLONG DESCENDING TONEtHIGH TONEtLOW TONEtRISING TONE",
    "oNASALIZATION MARKoSHORT HIGH TONEuLOW TONEuRISING TONEhMAeDANTAYALANfIGIT EIGHTkFIVElOUR",
    "kNINEkONEkSEVENlIXkTHREElWOkZEROfOROME SIGNeEXCLAMATION MARKeHIGH TONE APOSTROPHEeLAJANYALAN",
    "fETTER AlBAlCHAlDAnGBASINNAlEmElFAlGBAlHAlIlJAmONA CHAqJAqRAlKAlLAlMAlNmAn WOLOSOmYAo WOLOSO",
    "lOmOlPAlRAmRAlSAlTAlUlWAlYAfOW TONE APOSTROPHEeSYMBOL GBAKURUNENlOO DENNENeTAMAN SIGNbLbNBSP",
    "bO BICYCLESeREAK HEREdENTRYi SIGNdMOBILE PHONESdONE UNDER EIGHTEEN SYMBOLdPEDESTRIANSeIRACY",
    "dSMOKING SYMBOLc-BREAK SPACEcMINAL DIGIT SHAPESeSMA SIGNcN-BREAKING HYPHEN",
    "ePOTABLE WATER SYMBOLdFORKINGcRdDIC MARK SIGNdMAL SUBGROUP OFs OR EQUAL TO",
    "dTH EAST AND SOUTH WEST ARROWmRROWq AND SOUTH EAST ARROWrCROSSING NORTH WEST ARROW",
    "zbSOUTH EAST ARROWrWITH HOOKlBLACK ARROWlDOUBLE ARROWlPOINTING BUDuLEAFuVINE LEAF",
    "lSANS-SERIF ARROWlTRIANGLE-HEADED ARROWzh TO BARlWHITE ARROWgINDIC FRACTION ONE EIGHTHzHALF",
    "zQUARTERzSIXTEENTHvTHREE QUARTERSzcSIXTEENTHSmPLACEHOLDER MARKmQUANTITY MARKpRTER MARK",
    "mRUPEE MARKgWEST AND SOUTH EAST ARROWmRROWq AND NORTH EAST ARROWrCROSSING NORTH EAST ARROW",
    "rTO CORNERuLONG BARrWITH HOOKlBLACK ARROWlDOUBLE ARROWlPOINTING BUDuLEAFuVINE LEAF",
    "lSANS-SERIF ARROWlTRIANGLE-HEADED ARROWzh TO BARlWHITE ARROWfEAST-POINTING AIRPLANEcSE",
    "cT A SUBSET OFiPERSET OFfLMOST EQUAL TOfN ELEMENT OFfSYMPTOTICALLY EQUAL TOeCHECK MARK",
    "eEQUAL TOhIVALENT TOeGREATER-THANeIDENTICAL TOeLESS-THANeNORMAL SUBGROUP OFw OR EQUAL TO",
    "ePARALLEL TOeSIGNfQUARE IMAGE OF OR EQUAL TOlORIGINAL OF OR EQUAL TOeTILDEfRUE",
    "dCHED LEFT SEMICIRCLE WITH THREE DOTSjOWER RIGHT-SHADOWED WHITE RIGHTWARDS ARROW",
    "iRIGHT SEMICIRCLE WITH THREE DOTSiUPPER RIGHT-SHADOWED WHITE RIGHTWARDS ARROWdEe PADhGEeBOOK",
    "i WITH DECORATIVE COVERbULdLcMBER EIGHTEEN FULL STOPiLEVEN FULL STOPhFIFTEEN FULL STOP",
    "iOURTEEN FULL STOPhNINETEEN FULL STOPhSEVENTEEN FULL STOPiIGNjXTEEN FULL STOPhTEN FULL STOP",
    "iHIRTEEN FULL STOPiWELVE FULL STOPkNTY FULL STOPdERO SIGNcSHU ITERATION MARKcT AND BOLT",
    "bYIAKENG PUACHUE HMONG CIRCLED CAxDIGIT EIGHTzeFIVEzfOURzeNINEzeONEzeSEVENzfIXzeTHREEzfWO",
    "zeZEROxLETTER AzgAzfCAzfDAzgLAzfEzgEzfFAzfGAzfHAzhHzfIzfKAzfLAzfMAzgLAzfNAzgCAzgKAzgPAzhLA",
    "zgQAzgRAzgTAzhSAzhXAzgYAzfOzgOzfPAzgLAzfQAzfRAzgRAzfSAzfTAzgSAzgXAzfUzfVAzfWzfXAzgYAzfYAzfZA",
    "yOGOGRAM NYAJxSIGN FOR ANIMALzhINVERTEBRATEzhLOCATIONzhPERSONzhTHINGzdXW XW",
    "yYLLABLE LENGTHENERxTONE-BzdDzdGzdJzdMzdSzdVaOBJECT REPLACEMENT CHARACTER",
    "cLIQUE ANGLE OPENING DOWNwUPiHYPHENcSERVER EYE SYMBOLbCR AMOUNT OF CHECKeBELT BUCKLEfOW TIE",
    "fRANCH BANK IDENTIFICATIONeCHAIRfUSTOMER ACCOUNT NUMBEReDASHfOUBLE BACKSLASHeFORKeHOOK",
    "eINVERTED FORKcTAGONAL SIGNdOPUSbDENbFFICE BUILDINGbGHAM FEATHER MARKgLETTER AILMnBEITH",
    "nCEIRToOLLnDAIRnEABHADHpDHADHpMHANCHOLLnFEARNnGORTnIFINoODHADHnLUISnMUINnNGEADALoIONnONNoR",
    "nPEITHnRUISnSAILoTRAIFnTINNEnUATHoILLEANNoRgREVERSED FEATHER MARKgSPACE MARKcONEKbHM SIGN",
    "bIL DRUMbK HAND SIGNbL CHIKI AHADjDIGIT EIGHTpFIVEqOURpNINEpONEpSEVENqIXpTHREEqWOpZERO",
    "jGAAHLAA TTUDDAAGjLETTER AAJsKsMsWrGrLrNGrTqEDDrNrPrRRqIHrNYrRrSqLAsArErIrOrUqOBrHrTTrVqUCrD",
    "rNNrYjMU TTUDDAGl-GAAHLAA TTUDDAAGjPHAARKAAkUNCTUATION DOUBLE MUCAADvMUCAADjRELAA",
    "cD CHINESE HOOK MARKmITERATION MARKeHUNGARIAN CAPITAL LETTER AzfAzfKzfMBzfNDzeCLOSE EzeEzfB",
    "zfCzgHzgSzfDzfEzfFzfGzgYzfHzfJzfKzfLzgYzfMzgPzfNzgCzgTzh-SHAPED SIGNzgYzfPzfRzfSzgZzfTzgYzfV",
    "zfZzgSzeIzfIzeNIKOLSBURG OEzpUEzeOzfEEzfOzeRUDIMENTA OEzoUEzeSHORT ERzeUzfNKzfSzfU",
    "oNUMBER FIFTYxVEvONEy HUNDREDzTHOUSANDvTENoSMALL LETTER AzdAzdKzdMBzdNDzcCLOSE EzcEzdBzdCzeH",
    "zeSzdDzdEzdFzdGzeYzdHzdJzdKzdLzeYzdMzePzdNzeCzeTzf-SHAPED SIGNzeYzdPzdRzdSzeZzdTzeYzdVzdZzeS",
    "zcIzdIzcNIKOLSBURG OEznUEzcOzdEEzdOzcRUDIMENTA OEzmUEzcSHORT ERzcUzdNKzdSzdUeITALIC LETTER A",
    "sBEsCHEsDEsEtFtKStLtMtNtRuStSuHuSsHEsItIsKAtEtHEtUsNORTHERN TSEsOsPEtHEsSHEtOUTHERN TSEsTE",
    "tHEsUtUsVEsYEsZElNUMERAL FIFTYvVEtONEtTENeKEYeNORTH ARABIAN LETTER AINzbLEFzBEHzDADzcLzES-1",
    "zd2zd3zFEHzGEEMzbHAINzHAHzbEHzKAFzbHAHzLAMzMEEMzNOONzQAFzREHzSADzTAHzbEHzbHALzcEHzWAWzYEH",
    "zZAHzcINsNUMBER ONEzTENzbWENTYePERMIC LETTER ANsBURsCHERYsDOItZHOIuITAsEtFsGAIsHAsItAtEsKOKE",
    "sLEIsMENOEsNENOEsOtOsPEEIsREIsSHCHOOIuOOItIIsTAItSIUsUsVERtOOIsYAuTtERvIvUtRYtUsZATAtHOI",
    "hSIAN NUMBER HUNDREDtONEtTENuWENTYvOmSIGN AsURAMAZDAAzc-2zcHArBAtGAsUUMISHrCArDAtHYAAUSHzb-2",
    "sIsUrFArGAsUrHArIrJAsIrKAsUrLArMAsIsUrNAsUrPArRAsUrSAsHAsSArTAsHAsUrUrVAsIrXAsSHAAYATHIYArYA",
    "rZAmWORD DIVIDERiONAL COMPUTEReSOGDIAN FRACTION ONE HALFmLETTER ALEPHvTERNATE AYINuYINtBETH",
    "tFINAL ALEPHzBETHzHEzNUNzd WITH VERTICAL TAILzSADHEzf WITH VERTICAL TAILzTAW",
    "zd WITH VERTICAL TAILtGIMELtHEvTHtKAPHtLAMEDHtMEMtNUNtPEtRESH-AYIN-DALETHtSADHEvMEKHuHINtTAW",
    "tWAWtYODHtZAYINnIGATURE AYIN-DALETHmNUMBER FIVEuOURtONEw HUNDREDtTENuHIRTYvREEuWENTYvO",
    "gUTH ARABIAN LETTER ALEFzbYNzBETHzDALETHzbHADHEzdLETHzFEzGHAYNzbIMELzHEzcTHzKAPHzbHETH",
    "zLAMEDHzMEMzNUNzQOPHzRESHzSADHEzcMEKHzcTzbHINzTAWzbETHzbHAWzcETHzWAWzYODHzZAYNsNUMBER FIFTY",
    "zONEvERIC INDICATOReTURKIC LETTER ORKHON AzbBzbDzbEBzcDzcGzcKzcLzcNzcRzcSzcTzcYzbGzbLzbNzbQ",
    "zbRzbSzcHzbTzbYzBASHzECzbLTzbMzbNCzcGzcTzcYzbPzbSHzbZzIzbCzbQzOzbEzcKzbPzbQzbTsYENISEI AzcB",
    "zcDzcEzdBzdGzdKzdNzeGzdTzdYzcGzcLzcNGzcQzcRzcSHzcTzcYzbEzcCzcNCzdTzdYzcSHzcZzbIzcQzbOEzdKzcQ",
    "eUYGHUR COMBINING DOT ABOVEzBELOWvTWO DOTS ABOVEzfBELOWlLETTER ALEPHsBETHsFINAL HETH",
    "sGIMEL-HETHsKAPHsLAMEDHtESHsMEMsNUNsPEsRESHsSADHEuMEKHtHINsTAWsWAWsYODHsZAYIN",
    "lPUNCTUATION BARxFOUR DOTSxTWO BARSzcDOTSdER ADULTgMANgWOMANcIVEbM SYMBOL",
    "bN WITH EXCLAMATION MARK WITH LEFT RIGHT ARROW ABOVEcCOMING AUTOMOBILEjBUSjFIRE ENGINE",
    "jPOLICE CARjTAXIcE BUTTON MOUSEeDOT LEADERiOVER TWO DOTS PUNCTUATIONd-PIECE SWIMSUITcION",
    "bPEN BOOKhXfCENTRE ASTERISKmBLACK STARmCROSSmTEARDROP-SPOKED ASTERISKfFILE FOLDERgOLDER",
    "fHANDS SIGNfLOCKfMAILBOX WITH LOWERED FLAGsRAISED FLAGfSUBSEThPERSET",
    "e-CIRCUIT-OUTPUT H-TYPE SYMBOLuL-TYPE SYMBOLfOUTLINED RIGHTWARDS ARROWdRATING SYSTEM COMMAND",
    "cHIUCHUScPOSITIONcTICAL DISCm ICONeON KEYbR WITH DOT INSIDEcANGE BOOKhHEARTfUTANcIGINAL OF",
    "dYA AI LENGTH MARKhU LENGTH MARKgDIGIT EIGHTmFIVEnOURmNINEmONEmSEVENnIXmTHREEnWOmZERO",
    "gFRACTION ONE EIGHTHtHALFtQUARTERtSIXTEENTHpTHREE QUARTERSvSIXTEENTHSgISSHARgLETTER AoAoIoU",
    "nBAoHAnCAoHAnDAoDApHAoHAnEnGAoHAnHAnIoInJAoHAnKAoHAnLAoLAnMAnNAoGAoNAoYAnOnPAoHAnRAoHAoRAnSA",
    "oHAoSAnTAoHAoTApHAnUoUnVAoOCALIC LwLvRwRnWAnYAoYAgSIGN ANUSVARAmVAGRAHAlCANDRABINDUlNUKTA",
    "lOVERLINElVIRAMAnSARGAgVOWEL SIGN AAsIsUrErIsIrOrUsUrVOCALIC LzbLzRzbRcNATE LEFT PARENTHESIS",
    "hRIGHT PARENTHESIScTHODOX CROSSbSAGE CAPITAL LETTER AwHwIxNvBRAvCHAvDHAvEwHCHAxKAxPAxTAySA",
    "wINvGHAvHAwYAvIvKAwHAwYAvLAvMAvNAvOwINvPAvSAwHAvTAwSAxHAvUvWAvZAwHAgSMALL LETTER AuHuIvNtBRA",
    "tCHAtDHAtEuHCHAvKAvPAvTAwSAuINtGHAtHAuYAtItKAuHAuYAtLAtMAtNAtOuINtPAtSAuHAtTAuSAvHAtUtWAtZA",
    "uHAcCcMANYA DIGIT EIGHToFIVEpOURoNINEoONEoSEVENpIXoTHREEpWOoZEROiLETTER AqAqLEFpBApCAYNpDEEL",
    "qHApEqEpFApGApHApIpJApKAAFqHApLAANpMIINpNUUNpOqOpQAAFpRApSAqHIINpTApUpWAWpXApYAbTTER",
    "dOMAN SIYAQ ALTERNATE NUMBER EIGHTzgFIVEzhOURzk HUNDREDzgNINEzgSEVENzhIXzj HUNDREDzgTEN",
    "zj THOUSANDzhHREEzhWOzj THOUSANDoFRACTION ONE HALFzcSIXTHoMARRATANoNUMBER EIGHTzb HUNDRED",
    "zcTHOUSANDzbYzc THOUSANDvFIFTYzb THOUSANDxVEz HUNDREDzbTHOUSANDwORTYzb THOUSANDxURz HUNDRED",
    "zbTHOUSANDvNINEz HUNDREDzbTHOUSANDzTYzc THOUSANDvONEy HUNDREDzTHOUSANDvSEVENzb HUNDRED",
    "zcTHOUSANDzbTYzd THOUSANDwIXy HUNDREDzTHOUSANDyTYzb THOUSANDvTENy THOUSANDwHIRTYzc THOUSAND",
    "xREEzb HUNDREDzcTHOUSANDwWENTYzc THOUSANDxOy HUNDREDzTHOUSANDbUNCE SIGNcTBOX TRAY",
    "dLINED BLACK STARjGREEK CROSSjLATIN CROSSjWHITE STARbVERHEATED FACEeLAPhPING BLACK SQUARES",
    "mWHITE AND BLACK SQUARESsSQUARESfINEbWLbXbYSTERaPACKAGEcDdDING CHARACTERcGEe FACING UP",
    "fWITH CIRCLED TEXTlURLeReSdODAcHAWH HMONG CLAN SIGN FAJxHAMzWJxKHAByOOyWMxLAUJyISxMUASxPHAB",
    "xTHOJySABzHEEJzWBxVAJyWJxXYOOJxYAJyEEGoONSONANT AUxCAUyHAUxHAUyLAUyNAUxLAUxMAUxNAUyCHAUyKAU",
    "yLAUyTHAUzSAUxPLHAUxQHAUxRAUxVAUxXAUxYAUnDIGIT EIGHTtFIVEuOURtNINEtONEtSEVENuIXtTHREEuWO",
    "tZEROnMARK CIM HOMwKESxHAVwSOxUAMwTAUMxUBnNUMBER HUNDRED MILLIONSzcSuMILLIONSuTEN BILLIONS",
    "yTHOUSANDSxSvRILLIONSnSIGN AVsCIM CHEEMxUAM TSHOOJwHAIS LUS NTOG NTOGwNRES TOSwPUB DAWB",
    "wTSOV ROGxXWVzb CHWVsHLItNUBsIB YAMsLOSsMEEJ SUABxTSEEBtUSsNQIGtTUJsTAUtHIRD-STAGE HLI",
    "tXHEEJ CEEVsVOS FEEMwLUBwNRUAwSEEVwTHIAByOMxSHAB CEEBsXAUStIABtYEEM FAIByNTXIVyRHOyTOVuOO",
    "sZWJ THAJnVOWEL KAABwVvBvIBwVvUBwVvVvWBwVuEBvEBwVvVuIABwVvBvVuOBvOBwVvVuUABwVvBvVuWBvVcLLAS",
    "dM BRANCHfDOWN HANDfTREEfUP HANDeS UP TOGETHEReYRENE LEFT-POINTING FLEURONmTTER ALEPHsYIN",
    "rBETHrDALETHrFINAL NUNrGIMELrHEtTHrKAPHrLAMEDHrMEMrNUNrPErQOPHrRESHrSADHEtMEKHsHINrTAWsETH",
    "rWAWrYODHrZAYINkNUMBER FIVEsOURrONErTENsHREEsWENTYtOkRIGHT-POINTING FLEURONcNCAKESdDA FACE",
    "cPERCLIPcRACHUTEeGRAPH SEPARATORjOSjUS MARKeLLEL TOjWITH HORIZONTAL STROKEoTILDE OPERATOR",
    "dENTHESIZED DIGIT EIGHTuFIVEvOURuNINEuONEuSEVENvIXuTHREEvWOoHANGUL CHIEUCHzd AwIEUCzb AzcU",
    "vHIEUHzb AvIEUNGzb AvKHIEUKHzd AwIYEOKzc AvMIEUMzb AvNIEUNzb AvPHIEUPHzd AwIEUPzb AvRIEUL",
    "zb AvSIOSz AvTHIEUTHzd AwIKEUTzc AoIDEOGRAPH ALLIANCEyCALLzONGRATULATIONyEARTHzIGHT",
    "zNTERPRISEyFESTIVALzINANCIALzbREzbVEzOURyHAVEyLABORyMETALzOONyNAMEzINEyONEyREACHzbPRESENT",
    "zbSOURCEzcTySELFzbVENzIXzOCIETYzPECIALzTOCKzbUDYzUNzbPERVISEyTENzHREEzWOyWATERzOOD",
    "oKOREAN CHARACTER O HUzhJEONoLATIN CAPITAL LETTER AzkBzkCzkDzkEzkFzkGzkHzkIzkJzkKzkLzkMzkN",
    "zkOzkPzkQzkRzkSzkTzkUzkVzkWzkXzkYzkZuSMALL LETTER AziBziCziDziEziFziGziHziIziJziKziLziMziN",
    "ziOziPziQziRziSziTziUziVziWziXziYziZoNUMBER EIGHTEENwLEVENvFIFTEENwOURTEENvNINETEEN",
    "vSEVENTEENwIXTEENvTENwHIRTEENwWELVEyNTYdROTdT ALTERNATION MARKeIAL DIFFERENTIAL",
    "iLINE BACKWARDnDOWNnFORWARDnUPhLY-RECYCLED PAPER SYMBOLeNERSHIP SIGNeY POPPERcSSED SYMBOL",
    "fNGER SHIPeIVE-PULL-DOWN-OUTPUT SYMBOLnUP-OUTPUT SYMBOLePORT CONTROLcU CIN HAU GLOTTAL STOP",
    "y FINALzVARIANTmLETTER AtBAtCAuHAtDAtEtFAuINAL KzLzMzNzbGzPzTzWzYtGAtHAtIuAtKAuHAtLAtMAtNA",
    "uGAtOtPAuHAtRAtSAtTAuHAtUuAtVAtZAnOW-FALLING TONEzd FINALzeLONGzi FINALmMID-LEVEL TONE",
    "zb FINALzcLONG FINALmRISING TONEx FINALyLONGzd FINALmSANDHI GLOTTAL STOPzg FINALtTONEx FINAL",
    "yLONGzd FINALcW PRINTSbDFcIbEACE SYMBOLeHeOCKdNUTSdRcDESTRIANcN OVER STAMPED ENVELOPEdCIL",
    "dGUINdSIVE FACEdTAGRAMcOPLE HUGGINGcR MILLE SIGNeSIGNeTEN THOUSAND SIGNdCENT SIGN",
    "dFORMING ARTSdMANENT PAPER SIGNdPENDICULARn WITH SdSEVERING FACEeON BOWING DEEPLYhCLIMBING",
    "hDOING CARTWHEELhFROWNINGhIN LOTUS POSITIONkSTEAMY ROOMhRAISING BOTH HANDS IN CELEBRATION",
    "hWITH BALLnLOND HAIRmCROWNmFOLDED HANDSmHEADSCARFmPOUTING FACEgAL COMPUTERePECTIVEcSETA SIGN",
    "dO SIGNcTRI DISHbHAGS-PA DOUBLE HEAD MARKjLETTER ArLTERNATE YArSPIRATED FAqBAqCAsNDRABINDU",
    "rHAqDArDArZAqErEqFAqGArGAqHAqIqJAqKArHAqLAqMAqNArGArNArYAqOqPArHAqQAqRAqSArHArMALL AqTArHA",
    "rSAsHArTAsHAqUqVOICED HAvLESS SHAqWAqXAqYAqZArHAjMARK DOUBLE SHADoSHADjSINGLE HEAD MARK",
    "kUBJOINED LETTER RAzbWAzbYAlPERFIXED LETTER RAdISTOS DISC SIGN ARROWtBEEwHIVEuOOMERANGvW",
    "uULLS LEGtCAPTIVEvRPENTRY PLANEvTuHILDuLUBuOLUMNvMBxINING OBLIQUE STROKEtDOLIUMvVEtEAGLE",
    "tFLUTEtGAUNTLETuRATERtHELMETuIDEuORNtLIDvLYtMANACLESvTTOCKtOX BACKtPAPYRUSuEDESTRIAN",
    "uLANE TREEvUMED HEADtRAMuOSETTEtSAWuHIELDwPuLINGuMALL AXEuTRAINERtTATTOOED HEADuIARAuUNNY",
    "tVINEtWAVY BANDuOMANcILIPPINE DOUBLE PUNCTUATIONlSINGLE PUNCTUATIONcOENICIAN LETTER AINtLF",
    "sBETsDELTsGAMLsHEuTsKAFsLAMDsMEMsNUNsPEsQOFsROSHsSADEtEMKtHINsTAUtETsWAUsYODsZAIlNUMBER ONE",
    "v HUNDREDsTENtHREEtWENTYuOlWORD SEPARATORdLUSbICKeUP TRUCKcEcGd FACEeNOSEcLCROW SIGN",
    "dE OF POOdLcNATAdCHED FINGERSfING HANDdE DECORATIONeAPPLEdWHEEL STARcSCESdTOLcTCHFORK",
    "j WITH TEE TOPbLACARDeE OF INTEREST SIGNjWORSHIPdNCK CONSTANTp OVER TWO PIdYGROUND SLIDE",
    "eING CARD ACE OF CLUBSuDIAMONDSuHEARTSuSPADESnBACKoLACK JOKERnEIGHT OF CLUBSwDIAMONDSwHEARTS",
    "wSPADESnFIVE OF CLUBSvDIAMONDSvHEARTSvSPADESoOOLpUR OF CLUBSvDIAMONDSvHEARTSvSPADES",
    "nJACK OF CLUBSvDIAMONDSvHEARTSvSPADESnKING OF CLUBSvDIAMONDSvHEARTSvSPADESoNIGHT OF CLUBS",
    "xDIAMONDSxHEARTSxSPADESnNINE OF CLUBSvDIAMONDSvHEARTSvSPADESnQUEEN OF CLUBSwDIAMONDSwHEARTS",
    "wSPADESnRED JOKERnSEVEN OF CLUBSwDIAMONDSwHEARTSwSPADESoIX OF CLUBSuDIAMONDSuHEARTSuSPADES",
    "nTEN OF CLUBSuDIAMONDSuHEARTSuSPADESoHREE OF CLUBSwDIAMONDSwHEARTSwSPADESoRUMP-1u0u1u2u3u4u5",
    "u6u7u8u9t2u0u1t3t4t5t6t7t8t9oWO OF CLUBSuDIAMONDSuHEARTSuSPADESnWHITE JOKERcDcUdNGERdS SIGN",
    "j ABOVE EQUALS SIGNkIN LEFT HALF CIRCLEnRIGHT HALF CIRCLEnTRIANGLEkWITH BLACK TRIANGLE",
    "pCIRCUMFLEX ACCENT ABOVEpDOT BELOWpSMALL CIRCLE ABOVEqUBSCRIPT TWOpTILDE ABOVEvBELOW",
    "e-MINUS SIGNdTOf FORM FIVEmOURlTHREEmWObMbOCKET CALCULATORcLICE CARkS REVOLVING LIGHT",
    "hOFFICERcODLEcP DIRECTIONAL FORMATTINGqISOLATEdCORNcRTABLE STEREOcSEIDONdITION INDICATOR",
    "dTAL HORNhMARKl FACEeBOXcT OF FOODdABLE WATER SYMBOLeTOdTED PLANTcUCHdLTRY LEGdND SIGN",
    "dRING LIQUIDdTING CAT FACEiFACEcWER ON SYMBOLi-OFF SYMBOLgSLEEP SYMBOLhYMBOLbRAYER BEADS",
    "cECEDESi ABOVE ALMOST EQUAL TOpEQUALS SIGNpNOT ALMOST EQUAL TOtEQUAL TO",
    "pSINGLE-LINE EQUALS SIGNzcNOT EQUAL TOjBUT NOT EQUIVALENT TOjOR EQUAL TOpIVALENT TO",
    "jUNDER RELATIONdGNANT MANjPERSONjWOMANdSCRIPTION TAKEeENTATION FORM FOR VERTICAL COLONziMMA",
    "zgEM DASHzhN DASHzhXCLAMATION MARKzgHORIZONTAL ELLIPSISzgIDEOGRAPHIC COMMAzsFULL STOP",
    "zgLEFT ANGLE BRACKETzlBLACK LENTICULAR BRACKETzlCORNER BRACKETzmURLY BRACKET",
    "zlDOUBLE ANGLE BRACKETzlPARENTHESISzlSQUARE BRACKETzlTORTOISE SHELL BRACKET",
    "zlWHITE CORNER BRACKETzrLENTICULAR BRACKETzhOW LINEzgQUESTION MARKzgRIGHT ANGLE BRACKET",
    "zmBLACK LENTICULAR BRACKETzmCORNER BRACKETznURLY BRACKETzmDOUBLE ANGLE BRACKETzmPARENTHESIS",
    "zmSQUARE BRACKETzmTORTOISE SHELL BRACKETzmWHITE CORNER BRACKETzsLENTICULAR BRACKETzzhKCET",
    "zgSEMICOLONzgTWO DOT LEADERzgWAVY LOW LINEdTZELdVIOUS PAGEcIMEdNCEgSSeT SCREEN SYMBOLfER",
    "h ICONdVACY MESSAGEfTE USE ONEmTWOl-1m2cOBING CANEdHIBITED SIGNdJECTIVEdPERTY LINEeORTION",
    "kAL TOdSERPINAbSALTER PAHLAVI FOUR DOTS WITH CROSSzgDOTqLETTER ALEPHxBETHxDALETHxGIMELxHEzTH",
    "xKAPHxLAMEDHxMEM-QOPHxNUNxPExSADHEzMEKHyHINxTAWxWAW-AYIN-RESHxYODHxZAYINqNUMBER FOURxONE",
    "zb HUNDREDxTENyHREEyWENTYzOqSECTION MARKqTURNED SECTION MARKbU1c2cBLIC ADDRESS LOUDSPEAKER",
    "cNCTUATION SPACEgS ELEVATUS MARKcRPLE HEARTdSEcSHPINcT LITTER IN ITS PLACE SYMBOL",
    "aQUADRANT LOWER LEFTpRIGHTjUPPER LEFTt AND LOWER LEFT AND LOWER RIGHTzfRIGHT",
    "yUPPER RIGHT AND LOWER LEFTzvRIGHTpRIGHTu AND LOWER LEFTzk AND LOWER RIGHT",
    "fUPLE INTEGRAL OPERATORkPRIMEdRTER NOTEdTERNION INTEGRAL OPERATORcESTION EXCLAMATION MARK",
    "jMARKiED EQUAL TOcINCUNXcOTATION MARKaRABBITg FACEcCCOONdING CARhMOTORCYCLE",
    "cDICAL SYMBOL BOTTOMeOf BUTTONfACTIVE SIGNcILWAY CARiTRACKdNeBOWdSED BACK OF HANDhCOMMAhDOT",
    "kTED INTERPOLATION MARKERhFISThHANDl WITH FINGERS SPLAYED",
    "rPART BETWEEN MIDDLE AND RING FINGERShINTERPOLATION MARKERhMC SIGNiD SIGNiR SIGNhSQUAREcMcT",
    "dIOcZORbECEIPTdORD SEPARATORdREATIONAL VEHICLEdYCLED PAPER SYMBOL",
    "gING SYMBOL FOR GENERIC MATERIALSvTYPE-1 PLASTICSzb2 PLASTICSzb3 PLASTICSzb4 PLASTICS",
    "zb5 PLASTICSzb6 PLASTICSzb7 PLASTICScD APPLEeGIFT ENVELOPEcFERENCE MARK",
    "cGIONAL INDICATOR SYMBOL LETTER AziBziCziDziEziFziGziHziIziJziKziLziMziNziOziPziQziRziSziT",
    "ziUziVziWziXziYziZeSTERED SIGNcJANG CONSONANT SIGN HwNxGwRhLETTER AoBAoCAoDAoGAoHAoJAoKAoLA",
    "oMApBAoNApDApGAqGApYAqJAoPAoRAoSAoTAoWAoYAhSECTION MARKhVIRAMAiOWEL SIGN AItUsEtAtUsIsOsU",
    "cLIEVED FACEcMINDER RIBBONcPLACEMENT CHARACTERcSPONSEdTRICTED LEFT ENTRY-1w2fOOMcTURN LEFT",
    "hRIGHThSYMBOLcVERSE CHECKER BOARDiINDEXiLIGHT FOUR POINTED PINWHEEL STARkNE FEEDiSOLIDUS",
    "p OPERATORqPRECEDING SUBSETqWITH HORIZONTAL STROKEiTILDE OPERATOR ABOVE LEFTWARDS ARROW",
    "zeRIGHTWARDS ARROWhD ANGLEo WITH UNDERBARjCOMMAjDOUBLE PRIMEv QUOTATION MARKqSTROKE NOT SIGN",
    "jEMPTY SETjFORKED PARAGRAPHOSjHAND WITH MIDDLE FINGER EXTENDEDjNOT SIGNjPILCROW SIGNkRIME",
    "jQUESTION MARKjRAISED HAND WITH FINGERS SPLAYEDkIGHT ANGLEkOTATED FLORAL HEART BULLET",
    "jSANS-SERIF CAPITAL LkEMICOLONjTHUMBS DOWN SIGNqUP SIGNkILDEo EQUALSkRIPLE PRIME",
    "jVICTORY HANDdOLVING HEARTSbHINOCEROSbIcAL SIGNcBBONg ARROW DOWN LEFTsRIGHTnLEFT DOWNsUP",
    "nRIGHT DOWNtUPnUP LEFTqRIGHTcCE BALLfCRACKERcFLEcGHT AND LOWER ONE EIGHTH BLOCK",
    "kUPPER ONE EIGHTH BLOCKiGER BUBBLEjLEl BRACKETt WITH DOTmDOTTED SUBSTITUTION MARKER",
    "mSUBSTITUTION MARKERmVARIANT WITH SQUAREmWITH ARCrDOWNWARDS ZIGZAG ARROW",
    "hRC GREATER-THAN BRACKETiROW WITH CIRCLED PLUSrSMALL CIRCLEgBLACK LENTICULAR BRACKET",
    "mTORTOISE SHELL BRACKETgCEILINGhORNER BRACKEThURLY BRACKETt LOWER HOOKuMIDDLE PIECE",
    "uUPPER HOOKgDOTTED SUBSTITUTION BRACKETiUBLE ANGLE BRACKEToRROW WITH ROUNDED HEAD",
    "nPARENTHESISnQUOTATION MARKnWIGGLY FENCEgFISH TAILiVE EIGHTHS BLOCKhLOORgHALF BLACK CIRCLE",
    "rSTARnOCKlFOLDERlMEDIUM SHADElRUNNING MANiND TELEPHONE RECEIVERgLOW PARAPHRASE BRACKET",
    "gNORMAL FACTOR SEMIDIRECT PRODUCTgONE EIGHTH BLOCKkQUARTER BLOCKhPEN SQUARED DOThUTER JOIN",
    "gPARENTHESISr EXTENSIONsLOWER HOOKsUPPER HOOKgRAISED OMISSION BRACKETgS-SHAPED BAG DELIMITER",
    "hEMIDIRECT PRODUCTiVEN EIGHTHS BLOCKhIDEWAYS U BRACKETiNGLE QUOTATION MARKhPEAKER",
    "n WITH ONE SOUND WAVEtTHREE SOUND WAVESjECH BUBBLEhQUARE BRACKETu EXTENSIONvLOWER CORNER",
    "vUPPER CORNERvWITH DOUBLE STROKEzbQUILLzbSTROKEzbTICK IN BOTTOM CORNERzjTOP CORNERzbUNDERBAR",
    "hUBSTITUTION BRACKETgTACKhHIRD WHITE RIGHT POINTING INDEXiOUGHT BUBBLEiREE EIGHTHS BLOCK",
    "mQUARTERS BLOCKhORTOISE SHELL BRACKEThRANSPOSITION BRACKETiIANGLEo ABOVE LEFT TRIANGLE",
    "mULAR ONE QUARTER BLOCKgVERTICAL BAR WITH QUILLqOX LINEgWHITE CORNER BRACKETnURLY BRACKET",
    "mLENTICULAR BRACKETmPARENTHESISmSQUARE BRACKETmTORTOISE SHELL BRACKEThIGGLY FENCE",
    "f-FACING ARMENIAN ETERNITY SIGNnFISTnSVASTI SIGNy WITH DOTSgHANDED INTERLACED PENTAGRAM",
    "gPOINTING ANGLE BRACKETpCURVED ANGLE BRACKETpDOUBLE ANGLE QUOTATION MARKpMAGNIFYING GLASS",
    "gSHADED WHITE RIGHTWARDS ARROWhIDE ARC CLOCKWISE ARROWgTO-LEFT EMBEDDINGoISOLATEoMARK",
    "oOVERRIDEfHAND INTERIOR PRODUCTfWARDS ARROWq ABOVE ALMOST EQUAL TOxREVERSE ALMOST EQUAL TO",
    "zgTILDE OPERATORxSHORT LEFTWARDS ARROWxTILDE OPERATORsND UPPER AND LOWER ONE EIGHTH BLOCK",
    "rFROM BARz TO BLACK DIAMONDrOVER LEFTWARDS ARROWrTHROUGH GREATER-THANzSUPERSETzXsO BAR",
    "vLACK DIAMONDrWITH CORNER DOWNWARDSwDOTTED STEMyUBLE VERTICAL STROKEwEQUILATERAL ARROWHEAD",
    "wHOOKwLARGE TRIANGLE ARROWHEADxOOPwMEDIUM TRIANGLE ARROWHEADwNOTCHED TAILwPLUS BELOW",
    "wSMALL EQUILATERAL ARROWHEADzdTRIANGLE ARROWHEADxTROKEwTAILzb WITH DOUBLE VERTICAL STROKE",
    "zhVERTICAL STROKExIP DOWNWARDSzbUPWARDSwVERTICAL STROKEq-TAIL",
    "lBACK-TILTED SHADOWED WHITE ARROWmLACK ARROWrCIRCLED WHITE ARROWmOTTOM SHADED WHITE ARROW",
    "lCOMPRESSED ARROWlDASHED ARROWmOUBLE ARROWx FROM BARyWITH STROKEzeVERTICAL STROKEx-TAIL",
    "sDASH ARROWlFINGER-POST ARROWmRONT-TILTED SHADOWED WHITE ARROWlHAND",
    "nRPOON OVER LEFTWARDS HARPOONtWITH BARB DOWN ABOVE LEFTWARDS HARPOON WITH BARB DOWN",
    "zjBELOW LONG DASHzjFROM BARzjTO BARziWARDSzeUP ABOVE LEFTWARDS HARPOON WITH BARB UP",
    "zoONG DASHznRIGHTWARDS HARPOON WITH BARB DOWNzhFROM BARzhTO BARzgWARDSmEAVY ARROW",
    "rCOMPRESSED ARROWlLEFT-SHADED WHITE ARROWlOPEN-HEADED ARROWlPAIRED ARROWSlQUADRUPLE ARROW",
    "lRIGHT-SHADED WHITE ARROWmOCKETlSANS-SERIF ARROWmQUARED ARROWoIGGLE ARROW",
    "lTOP SHADED WHITE ARROWmRIANGLE ARROWHEADt-HEADED ARROW",
    "zh OVER LEFTWARDS TRIANGLE-HEADED ARROWziTO BARziWITH BOLD SHAFTznDOUBLE HORIZONTAL STROKE",
    "zuVERTICAL STROKEznHEAVY SHAFTznLONG TIP DOWNWARDSzwUPWARDSznMEDIUM SHAFTznNARROW SHAFT",
    "znVERY HEAVY SHAFTzcDASHED ARROWzcPAIRED ARROWSoPLE ARROWsDASH ARROWmWO HEADED ARROW",
    "o-HEADED ARROW FROM BARzdWITH DOUBLE VERTICAL STROKEziTAILzm WITH DOUBLE VERTICAL STROKE",
    "zsVERTICAL STROKEzjRIANGLE ARROWHEADSziVERTICAL STROKEwTRIPLE DASH ARROWlWAVE ARROW",
    "mHITE ARROWw FROM WALLxWITHIN TRIANGLE ARROWHEADcNGe ABOVEfBUOYfEQUAL TOfIN EQUAL TO",
    "fOPERATORfPOINTeED PLANETeING BELLcSING DIAGONAL CROSSING FALLING DIAGONALzSOUTH EAST ARROW",
    "bLEcIcMcObOASTED SWEET POTATOcBOT FACEcCKeETcLL OF PAPEReED-UP NEWSPAPERfR COASTERhSKATE",
    "eING ON THE FLOOR LAUGHINGcMAN AS SIGNgCENTURIAL SIGNgDENARIUS SIGNhIMIDIA SEXTULA SIGN",
    "hUPONDIUS SIGNgNUMERAL EIGHTpLEVENoFIFTYt EARLY FORMuTHOUSANDqVEs HUNDREDtTHOUSANDpOURoNINE",
    "oONEr HUNDREDz THOUSANDsTHOUSANDzb C DoREVERSED ONE HUNDREDoSEVENpIXr LATE FORMoTEN",
    "r THOUSANDpHREEpWELVEqOgQUINARIUS SIGNgSEMUNCIA SIGNiSTERTIUS SIGNiXTANS SIGNkULA SIGN",
    "hILIQUA SIGNgUNCIA SIGNcOSTERcSEeTTEcTATED CAPITAL QiFLORAL HEART BULLET",
    "iHEAVY BLACK HEART BULLETiLIGHT FOUR POINTED BLACK CUSPiWHITE FOUR POINTED CUSPcUND PUSHPIN",
    "gTARGETfED SYMBOL FOR CAItFUtLUtSHOUvUANGXItXIcWBOATbSbUBLE SIGNcGBY FOOTBALLcLE-DELAYED",
    "cMI DIGIT EIGHTlFIVEmOURlNINElONElSEVENmIXlTHREEmWOfFRACTION ONE HALFsQUARTERsTHIRD",
    "oTWO THIRDSfNUMBER EIGHT HUNDREDrYmFIFTYoVE HUNDREDnORTYoUR HUNDREDmNINE HUNDREDqTY",
    "mONE HUNDREDmSEVEN HUNDREDrTYnIX HUNDREDpTYmTENnHIRTYoREE HUNDREDnWENTYoO HUNDRED",
    "cNIC ARLAUG SYMBOLgBELGTHOR SYMBOLgCROSS PUNCTUATIONgLETTER AC AoESCoLGIZ EOLHXoNSUZ A",
    "nBERKANAN BEORC BJARKAN BnCoALCoEALCpNoWEORTHnDoAGAZ DAEG DoOTTED-LuNuPnEoARoHWAZ EH EoNGoTH",
    "nFEHU FEOH FE FoRANKS CASKET ACzdESCzcEHzcISzcOSnGoARoEBO GYFU GpRnHAEGL HpGLAZ H",
    "nICELANDIC-YRoNGqWAZoORoSAZ IS ISS IoWAZ EOHnJERAN JnKoAUN KrAnLAUKAZ LAGU LOGR L",
    "oONG-BRANCH-AR AEzHAGALL HzMADR MzOSS OzYRnMANNAZ MAN MnNAUDIZ NYD NAUD NnOoEoNoOoPEN-PoS O",
    "oTHALAN ETHEL OnPERTHO PEORTH PnQnRAIDO RAD REID RnSHpORT-TWIG-AR AyBJARKAN ByHAGALL H",
    "yMADR MyNAUD NyOSS OySOL SyTYR TyYRoIGEL LONG-BRANCH-SOL SoOWILO SoTANnTHURISAZ THURS THORN",
    "oIWAZ TIR TYR TnURUZ UR UnVnWoUNJO WYNN WnXnYoRnZgMULTIPLE PUNCTUATIONgSINGLE PUNCTUATION",
    "gTVIMADUR SYMBOLdNEReING SHIRT WITH SASHcPEE SIGNcSSIAN ASTROLOGICAL SYMBOL BINOVILEzdNOVILE",
    "zdQUINTILEzdSENTAGONzdTREDECILEzdVIGINTILEaS IN TRIANGLEbAFETY PINhVESTcGITTARIUScILBOAT",
    "cKE BOTTLE AND CUPcLT SHAKEReIREdUTING FACEcMARITAN ABBREVIATION MARKkLETTER ALAFrBAAsIT",
    "rDALATrFIrGAMANrINsTsYrKAAFrLABATrMIMrNUNrQUFrRISHrSHANsINGAATrTAAFsITsSAADIYrYUTrZEN",
    "kMARK DAGESHpEPENTHETIC YUTpINr-ALAFpNEQUDAApOCCLUSIONlODIFIER LETTER EPENTHETIC YUTzbI",
    "zbSHORT AkPUNCTUATION AFSAAQxNGEDyNAAUxRKAANUxTMAAUwBAUwMELODIC QITSAwNEQUDAAwQITSA",
    "wSHIYYAALAAxOF MASHFAATwTURUwZAEFxIQAAkVOWEL SIGN AwAvEvIvLONG AzcAzbEzbIzbUvOwVERLONG AzgA",
    "vSHORT AwUKUNvUcNDWICHdS-SERIF HEAVY DOUBLE COMMA QUOTATION MARK ORNAMENT",
    "yTURNED COMMA QUOTATION MARK ORNAMENTrLOW DOUBLE COMMA QUOTATION MARK ORNAMENT",
    "lINTERROBANG ORNAMENTcRIcTELLITEj ANTENNAdURNcURASHTRA CONSONANT SIGN HAARUlDANDAmIGIT EIGHT",
    "rFIVEsOURrNINErONErSEVENsIXrTHREEsWOrZEROmOUBLE DANDAlLETTER AtAtItUsBAtHAsCAtHAsDAtDAuHAtHA",
    "sEtEsGAtHAsHAsItIsJAtHAsKAtHAsLAtLAsMAsNAtGAtNAtYAsOtOsPAtHAsRAsSAtHAtSAsTAtHAtTAuHAsUtUsVA",
    "tOCALIC LzcLzbRzcRsYAlSIGN ANUSVARAqCANDRABINDUqVIRAMAsSARGAlVOWEL SIGN AAxIxUwExEwIxIwOxOwU",
    "xUwVOCALIC LzgLzfRzgReOPODcXOPHONEbCALESdRFcHOOLg SATCHELcIcOOTERdRPIONgUScREENeWDRIVER",
    "dIPT CAPITAL BpEpFpHpIpLpMpPpRhLIGATURE ET ORNAMENThSMALL EnGnLnOdOLLdUPLEbEALdT",
    "cCOND PLACE MEDALdTION SIGNeORcDNAcE-NO-EVIL MONKEYdDLINGcGMENThED DIGIT EIGHTqFIVErOURqNINE",
    "qONEqSEVENrIXqTHREErWOqZEROcLFIEcMICOLONeDIRECT PRODUCT WITH BOTTOM CLOSEDeSEXTILE",
    "cPARATED SYMBOLcRIOUS FACE WITH SYMBOLS COVERING MOUTHdVICE MARKcSAME DOTdQUIQUADRATE",
    "cT MINUSeTRANSMIT STATEcWING NEEDLEcXTILEbGCbHADOWED WHITE CIRCLEpLATIN CROSSpSTAR",
    "dLLOW PAN OF FOODdMROCKdRADA ABBREVIATION SIGNiCONTINUATION SIGNiDANDAjIGIT EIGHToFIVEpOUR",
    "oNINEoONEoSEVENpIXoTHREEpWOoZEROjOUBLE DANDAiEKAMjXTRA SHORT VOWEL MARKiHEADSTROKEiLETTER A",
    "qAqIqUpBAqHApCAqHApDAqDArHAqHApEpGAqHApHApIqIpJAqHApKAqHApLAqLApMApNAqGAqNAqYApOpPAqHApRApSA",
    "qHAqSApTAqHAqTArHApUqUpVAqOCALIC LyLxRyRpYAiOMiSANDHI MARKjECTION MARK-1v2kPARATOR",
    "jIGN ANUSVARAoVAGRAHAnCANDRABINDUnINVERTED CANDRABINDUnJIHVAMULIYAnNUKTAnSIDDHAMnUPADHMANIYA",
    "nVIRAMApSARGAjUTRA MARKiVOWEL MODIFIER MARKoSIGN AAuIuUtEtIuItOtPRISHTHAMATRA EtUuU",
    "tVOCALIC LzdLzcRzdReKdVED ICEeIAN LETTER ADOqGEqHqIRqRErRAYqSHqWEpBIBpCHURCHpDEADpEARrTqGG",
    "qRRpFEEpGAGpHA-HAqUNGpIANqCEqFpJUDGEpKICKpLOLLpMEASUREqIMEpNUNpOAKqILqNqOZEqRqUTpPEEPpROAR",
    "pSOqUREpTHEYrIGHqOTpUPpVOWpWOErOLpYEArWpZOOcEEPcIELDdFT INgOUTdNTO SHRINEdP",
    "cOCKED FACE WITH EXPLODING HEADdOTING STARdPPING BAGSjTROLLEYdRT BACKSLANTED SOUTH ARROW",
    "hENT ARROW POINTING DOWNWARDS THEN NORTH EASTgDOWN TACKp WITH OVERBARgLEFT TACK",
    "gRIGHTWARDS ARROW ABOVE LEFTWARDS ARROWgSLANTED NORTH ARROWgUP TACKn ABOVE SHORT DOWN TACK",
    "oWITH UNDERBARfCAKEfHAND FORMAT CONTINUING OVERLAPrDOWN STEPrLETTER OVERLAPrUP STEPfS",
    "dULDERED OPEN BOXdWERcRIMPdUGcUFFLE PRODUCTcYbIcDDHAM DANDAjOUBLE DANDAiEND OF TEXT MARK",
    "iLETTER AqAqIqLTERNATE UqUpBAqHApCAqHApDAqDArHAqHApEpGAqHApHApIqIpJAqHApKAqHApLApMApNAqGAqNA",
    "qYApOpPAqHApRApSAqHAqSApTAqHArREE-CIRCLE ALTERNATE IqTArHAqWO-CIRCLE ALTERNATE IzmIpUqUpVA",
    "qOCALIC LyLxRyRpYAiREPETITION MARK-1y2y3iSECTION MARK DOUBLE RINGzh WITH RAYS",
    "vWITH CIRCLES AND FOUR ENCLOSURESznRAYSznTWO ENCLOSURESzbDOUBLE CRESCENTS",
    "zbQUADRUPLE CRESCENTSzbRAYS AND DOTTED CRESCENTSzrDOUBLE CRESCENTSzrTRIPLE CRESCENTS",
    "zbSEPTUPLE CRESCENTSzbTRIDENT AND DOTTED CRESCENTSznU-SHAPED ORNAMENTSzePLE CRESCENTS",
    "kPARATOR BARsDOTjIGN ANUSVARAnCANDRABINDUnNUKTAnSIDDHAMnVIRAMApSARGAiVOWEL SIGN AAuI",
    "uLTERNATE UzfUuUtEtIuItOtUuUtVOCALIC RzdRdEWAYS BLACK DOWN POINTING INDEX",
    "pLEFT POINTING INDEXpRIGHT POINTING INDEXpUP POINTING INDEXjWHITE DOWN POINTING INDEX",
    "pLEFT POINTING INDEXpRIGHT POINTING INDEXpUP POINTING INDEXcGN OF THE HORNS",
    "eWRITING AIR BLOW SMALL ROTATIONSuING OUTqSUCK SMALL ROTATIONSuING INmBREATH EXHALEtINHALE",
    "oUSH BETWEENsMULTIPLEsSINGLEmCHEEKS NEUTRALtPUFFEDtSUCKEDnOLONoMMA",
    "mDREAMY EYEBROWS DOWN NEUTRALzdNEUTRAL DOWNzlUPzdUP NEUTRALnYNAMIC ARROWHEAD LARGEzfSMALL",
    "uEVERY OTHER TIMEuFASTuGRADUALuRELAXEDuSIMULTANEOUSzh ALTERNATINGvLOWuTENSEmEARSnXCITEMENT",
    "nYE BLINK MULTIPLEwSINGLEqWINKpBROWS STRAIGHT DOWNzfNEUTRALzfUPpGAZE-FLOORPLANE CURVED",
    "zgSTRAIGHTzo ALTERNATINGzpDOUBLEuWALLPLANE CIRCLINGzgURVEDzfSTRAIGHTzn ALTERNATINGzoDOUBLE",
    "pLASHES DOWNwFLUTTERINGwUPpS CLOSEDrHALF CLOSEDwOPENrOPENrSQUEEZEDrWIDE OPENvNING MOVEMENT",
    "mFACE DIRECTION POSITION NOSE FORWARD TILTINGzqUP OR DOWNzzb TILTINGnILL MODIFIER-2zb3zb4zb5",
    "zb6oNGERnLICK LARGE MULTIPLEySINGLEsSEQUENTIALtMALL MULTIPLEySINGLE",
    "oOORPLANE SHOULDER HIP MOVEnOREHEAD CONTACTvNEUTRALvWRINKLEDnULL STOPmGRASP BETWEENsMULTIPLE",
    "sSINGLEmHAIRoND-ANGLEw INDEXzd MIDDLE LITTLEzlRINGzeRING LITTLEzp OUTzeTHUMBzj INzkOUT",
    "xLITTLE INDEXzk THUMB INDEX THUMBzzd OUTzfUPxMIDDLE RING LITTLEzq INzrOUT",
    "xRING DOWN MIDDLE THUMB INDEX CROSSzdLITTLErCIRCLEx INDEXze BENTzfHINGEzfMIDDLE",
    "zl CROSS LITTLEzrEDzmLITTLEzmRINGzmTHUMBzfRING LITTLEyLITTLE INDEXzgUPyMIDDLE RING LITTLE",
    "zr BENTzgUPyRING LITTLEsLAWv FOUR FINGERS CONJOINEDwINDEX THUMB CURVE THUMB INSIDE",
    "wMIDDLE RING LITTLE CONJOINEDzz SIDEwNO THUMBwTHUMB FORWARDzdSIDEsUPu FIVE FINGERS SPREAD",
    "zp OPENvINDEXzb RING LITTLEzcTHUMBzh OPENvMIDDLE RING LITTLEvNO THUMBvOPENz NO THUMB",
    "zbTHUMB FORWARDzhSIDEvTHUMB FORWARDzcSIDEtRLICUEz INDEX RING LITTLE ON",
    "zbMIDDLE RING LITTLE ONzbOPENrFISTv FOUR FINGERS CONJOINED BENTwHEELwINDEXzc BENT",
    "zh OVER MIDDLEzdCUPPEDzdHINGEDzj LOWzkMIDDLE UPzt THUMB SIDEzdMIDDLEzj BENTzo THUMB STRAIGHT",
    "zkCONJOINEDzt CUPPEDzzb THUMB FORWARDzuHINGEDzzb THUMB SIDEzuINDEX BENTzuMIDDLE BENT",
    "zuTHUMB FORWARDzzbSIDEzzf BENTzzgCONJOINEDzlROSS LITTLEzpEDzr THUMB SIDEzkHINGED",
    "zq SPREAD THUMB SIDEzkLITTLEzkRAISED KNUCKLESzlINGzo BENTzpCONJOINEDzkSTRAIGHT THUMB BENT",
    "zkTHUMBzp ANGLEDzw OUTzqBENTzqCIRCLEDzrONJOINED HINGEDzrUPPEDzqHINGEDzrOOKED",
    "zkUP SPREAD THUMB FORWARDzdRAISED KNUCKLEzeING LITTLEzdTHUMB ANGLED IN MIDDLE UP",
    "zqOUT MIDDLE UPzjCIRCLEzpD MIDDLE UPzkUPPED MIDDLE UPzlRLICUEzmVE THUMB INSIDEzvUNDER",
    "zjFORWARD INDEX BENTzxSTRAIGHTzjHOOKznED MIDDLE HINGEDzxUPzjSIDEzn BOTH BENTzoINDEX BENT",
    "zuHINGEzoTHUMB BENTzuCONJOINEDzuDIAGONALzdUP MIDDLE HINGEDzt THUMB CONJOINEDzzbSIDE",
    "wLITTLE BENTzeDOWNzi OTHERS CIRCLEDzjRIPPLE CURVEDzqSTRAIGHTzeINDEXzj THUMBzeRAISED KNUCKLE",
    "zeTHUMBzfOUCHES THUMBzeUPwMIDDLE BENT OVER INDEXzeDOWNzeLITTLEzeRAISED KNUCKLEzfING LITTLE",
    "zeTHUMB ANGLED INDEX UPzrOUT INDEX CROSSEDzzcUPzkCIRCLED INDEX HINGEDzyUPzlUPPED INDEX UP",
    "zkHOOKED INDEX UPzkLITTLEzeUPzg THUMB SIDEwRING DOWNzcINDEXzcLITTLEzcMIDDLEzi CONJOINED",
    "zjRAISED KNUCKLESzcRAISED KNUCKLEzcTHUMBzcUPwTHUMBzc BETWEEN INDEX MIDDLEzx STRAIGHT",
    "zlMIDDLE RINGzlRING LITTLEzdFORWARDzdHEELzdOVER FOUR RAISED KNUCKLESziTWO FINGERSzdSIDE BENT",
    "ziCONJOINEDziDIAGONALzdUNDER FOUR FINGERSzjINDEX BENTzjLITTLE UPzjTHREE FINGERSzkWO FINGERS",
    "sLATv BETWEEN PALM FACINGSwFIVE FINGERS SPREADzq BENTzrFOUR BENTzrHINGEDzx NO THUMB",
    "zyTHUMB SIDEzrTHUMB FORWARDxOUR FINGERSzj BENTzkCONJOINEDzt SPLITzkHINGEDwHEEL",
    "zb FIVE FINGERS SPREADzv BENTzwFOUR BENTzcTHUMB SIDEwSPLIT CENTREzj THUMB SIDEzu BENT",
    "zdINDEX THUMB SIDEzdLITTLEwTHUMB BENTzdFORWARDzdSIDErHINGEw FIVE FINGERS SPREAD OPEN",
    "yOUR FINGERS CONJOINEDxINDEXzd HINGEDzeMIDDLE LITTLEzlRINGzp CONJOINEDzeRING LITTLEzeTHUMB",
    "zj LARGEzkOPENzkSIDEzlMALLxLITTLEze INDEXzk THUMBzfTHUMBxMIDDLEze RING LITTLExNO THUMBxOPEN",
    "zc NO THUMBzdTHUMB FORWARDzjSIDExRINGzc DOWN INDEX THUMB HOOK MIDDLExSMALL",
    "xTHUMB BETWEEN MIDDLE RINGzeSIDEzi TOUCHING INDEXsOOKv CURLICUEwINDEX RING LITTLE INzpOUT",
    "zpUNDERwMIDDLE RING LITTLE CONJOINEDzz INzzbOUTzeTHUMBwRING THUMBrOVALv FIVE FINGERS SPREAD",
    "wINDEXwLITTLE UPwNO THUMBwRING LITTLEwTHUMB FORWARDzdSIDEnEADq MOVEMENT CIRCLE",
    "z-FLOORPLANE CURVEzmSTRAIGHTzbWALLPLANE CURVEzlSTRAIGHTzlTILTrRIMmLIMB COMBINATIONrLENGTH-1",
    "y2y3y4y5y6y7oP LOWER OVER UPPERqUPPER OVER LOWERpS PRESSED TOGETHERnOCATION DEPTHvHEAD NECK",
    "xIGHTvLIMBS DIGITSvTORSOvWIDTHu-FLOORPLANE SPACEvWALLPLANE SPACEmMOUTH CLOSED CONTACT",
    "zFORWARDzNEUTRALtORNERSsFROWNx OPENyWRINKLEDsKISSw FORWARDxWRINKLEDsOPEN CIRCLExFORWARDxOVAL",
    "zc WRINKLEDzdYAWNxRECTANGLEzh WRINKLEDziYAWNxWRINKLEDsSMILEx OPENyWRINKLEDsTENSEx FORWARD",
    "ySUCKEDsWRINKLES DOUBLEzcSINGLEoVEMENT-DIAGONAL AWAY LARGEzpSTzkMEDIUMzkSMALL",
    "zfBETWEEN AWAY LARGEzxSTzsMEDIUMzsSMALLznTOWARDS LARGEzzbSTzvMEDIUMzvSMALLzfTOWARDS LARGE",
    "zsSTznMEDIUMznSMALLvFLOORPLANE ARM CIRCLE HITTING WALL LARGE DOUBLEzzmSINGLEzzgMEDIUM DOUBLE",
    "zznSINGLEzzgSMALL DOUBLEzzmSINGLEzhBENDziOX LARGEzlMEDIUMzlSMALLzhCHECKziORNER LARGEzoMEDIUM",
    "zoSMALLziROSSziURVE COMBINEDznHITTING CEILING LARGEzzeSMALLzvFLOOR LARGEzzcSMALLznLARGEzsST",
    "znMEDIUMznSMALLzhDOUBLE ALTERNATINGzz WRIST FLEXzoSTRAIGHTzoWRIST FLEX",
    "zhFINGER CIRCLES HITTING WALL DOUBLEzzkSINGLEzpONTACTzhHUMP HITTING CEILING LARGE DOUBLE",
    "zzjTRIPLEzzdSMALL DOUBLEzzjTRIPLEzuFLOOR LARGE DOUBLEzzbSMALL DOUBLEzzbTRIPLE LARGE TRIPLE",
    "zziSMALL TRIPLEzmSMALLzhJAWzhLOOP HITTING CEILING LARGE DOUBLEzzjSINGLEzzdSMALL DOUBLE",
    "zzjSINGLEzuFLOOR LARGE DOUBLEzzhSINGLEzzbSMALL DOUBLEzzhSINGLEzmSMALLzhPEAKS LARGEznMEDIUM",
    "znSMALLzhSHAKING PARALLELziINGLE STRAIGHT LARGEzzdSTzxMEDIUMzxSMALLzoWRIST FLEX",
    "zhTRIPLE ALTERNATING MOVEMENTzzbWRIST FLEXzoSTRAIGHT MOVEMENTzoWRIST FLEX",
    "zhWAVE HITTING CEILING LARGEzzdSMALLzuFLOOR LARGEzzbSMALLzmLARGEzmSMALLznNAKE",
    "ziRIST CIRCLE HITTING WALL DOUBLEzziSINGLEzhZIGZAG LARGEzoMEDIUMzoSMALL",
    "vHINGE DOWN SEQUENTIALzcSIDE TO SIDE SCISSORSzcUP DOWN ALTERNATING LARGEzwSMALLzkLARGE",
    "zkSMALLzfSEQUENTIALvWALLPLANE ARM CIRCLE MEDIUM DOUBLEzySINGLEzrSMALL DOUBLEzxSINGLE",
    "zgBEND LARGEzlMEDIUMzlSMALLzhOX LARGEzkMEDIUMzkSMALLzgCHECK LARGEzmMEDIUMzmSMALL",
    "zhORNER LARGEznMEDIUMznROTATIONznSMALLzhROSSzhURVE HALF-CIRCLE LARGEzzeSTzyMEDIUMzySMALL",
    "znITTING CHESTzuFRONT WALLzmQUARTER LARGEzzSTzuMEDIUMzuSMALLzmTHEN STRAIGHT",
    "zoREE-QUARTER CIRCLE MEDIUMzziSMALLzlD CROSS MEDIUMztSMALLzgDOUBLE ALTERNATINGzy WRIST FLEX",
    "znSTRAIGHTznWRIST FLEXzgFINGER CIRCLES DOUBLEzvSINGLEzoONTACTzgHUMP HITTING CHEST",
    "ztFRONT WALLzlLARGEzlMEDIUMzlSMALLzgJAWzgLOOP HITTING CHESTztFRONT WALLzlLARGEzlMEDIUM",
    "zlSMALLzq DOUBLEzgPEAKS LARGEzmMEDIUMzmSMALLzgSHAKINGzhINGLE STRAIGHT LARGEzzcSTzwMEDIUM",
    "zwSMALLznWRIST FLEXzgTRIPLE ALTERNATINGzy WRIST FLEXznSTRAIGHT MOVEMENTznWRIST FLEX",
    "zgWAVE CURVE DOUBLE LARGEzyMEDIUMzySMALLzrTRIPLE LARGEzyMEDIUMzySMALLzlDIAGONAL PATH LARGE",
    "zzMEDIUMzzSMALLzlHITTING CHESTztFRONT WALLzhRIST CIRCLE FRONT DOUBLEzzSINGLEzgZIGZAG LARGE",
    "znMEDIUMznSMALLmNECKnOSE CONTACTrNEUTRALrWIGGLESsRINKLESmPARENTHESISmROTATION MODIFIER-10zg1",
    "zg2zg3zg4zg5zg6zf2zf3zf4zf5zf6zf7zf8zf9u-FLOORPLANE ALTERNATINGzs HITTING CEILINGzzcFLOOR",
    "zhDOUBLEzn HITTING CEILINGzwFLOORzhSINGLEzn HITTING CEILINGzwFLOORvWALLPLANE ALTERNATE",
    "zoING HITTING CHESTzzbFRONT WALLzgDOUBLEzm HITTING CHESTzvFRONT WALLzgSINGLEzm HITTING CHEST",
    "zvFRONT WALLnUB BETWEENqMULTIPLEqSINGLEmSEMICOLONnHOULDER HIP POSITIONSzSPINE",
    "vTILTING FROM WAISTnQUEEZE FLICK ALTERNATINGuLARGE MULTIPLEzbSINGLEuSEQUENTIALvMALL MULTIPLE",
    "zbSINGLEnTRIKE BETWEENtMULTIPLEtSINGLEnURFACE BETWEENuSYMBOLSmTEETHr BITE LIPSsMOVEMENT",
    "sON LIPSz MOVEMENTvTONGUEzc MOVEMENToNSE CHEEKS HIGHzLOWzMIDDLEnONGUE CENTRE INSIDE MOUTH",
    "zbSTICKING OUTtINSIDE MOUTH RELAXEDtLICKING LIPStMOVES AGAINST CHEEKtSTICKING OUT FAR",
    "tTIP BETWEEN LIPSxTOUCHING INSIDE MOUTHoRSO-FLOORPLANE TWISTINGsWALLPLANE CURVED BEND",
    "zdSTRAIGHT STRETCHoUCH BETWEENsMULTIPLEsSINGLE",
    "nRAVEL-FLOORPLANE ROTATION-FLOORPLANE ALTERNATINGzzDOUBLEzzSINGLEzoWALLPLANE ALTERNATING",
    "zyDOUBLEzySINGLEzfSHAKINGtWALLPLANE ARM SPIRAL DOUBLEzpSINGLEzpTRIPLE",
    "zeROTATION-FLOORPLANE ALTERNATINGzyDOUBLEzySINGLEznWALLPLANE ALTERNATINGzxDOUBLEzxSINGLE",
    "zeSHAKINGmUPPER BODY TILTING FROM HIP JOINTSmWALLPLANE SHOULDER HIP MOVEcLHOUETTE OF JAPAN",
    "cMILAR ABOVE GREATER-THAN ABOVE EQUALS SIGNoLESS-THAN ABOVE EQUALS SIGNiMINUS SIMILAR",
    "iOR GREATER-THANlLESS-THANcNE WAVEdGLE CHARACTER INTRODUCERhGRAPHIC CHARACTER INTRODUCER",
    "hHIGH-REVERSED-9 QUOTATION MARKhLEFT-POINTING ANGLE QUOTATION MARKiOW-9 QUOTATION MARK",
    "hRIGHT-POINTING ANGLE QUOTATION MARKhSHIFT THREEoWOg-SHIFT-2n3dHALA ARCHAIC DIGIT EIGHTwFIVE",
    "xOURwNINEwONEwSEVENxIXwTHREExWOqNUMBER EIGHTYxFIFTYyORTYxNINETYxONE HUNDREDzcTHOUSAND",
    "xSEVENTYyIXTYxTENyHIRTYyWENTYiLETTER AAYANNAqEEYANNArYANNAqIYANNAqLPAPRAANA BAYANNAzbCAYANNA",
    "zbDAYANNAzcDAYANNAzbGAYANNAzbJAYANNAzbKAYANNAzbPAYANNAzbTAYANNAzcTAYANNAqMBA BAYANNAqUYANNA",
    "qYANNApDANTAJA LAYANNAxNAYANNAxSAYANNApEEYANNAqYANNApFAYANNApHAYANNApIIYANNAqLUUYANNAsYANNA",
    "qRUUYANNAsYANNAqYANNApKANTAJA NAASIKYAYApMAHAAPRAANA BAYANNAzcCAYANNAzcDAYANNAzdDAYANNA",
    "zcGAYANNAzcJAYANNAzcKAYANNAzcPAYANNAzcTAYANNAzdTAYANNArYANNAqUURDHAJA LAYANNAzNAYANNA",
    "zSAYANNApOOYANNAqYANNApRAYANNApSANYAKA DAYANNAyDAYANNAxGAYANNAxJAYANNApTAALUJA NAASIKYAYA",
    "xSANYOOGA NAAKSIKYAYAzYANNApUUYANNAqYANNApVAYANNApYAYANNAjITH DIGIT EIGHTtFIVEuOURtNINEtONE",
    "tSEVENuIXtTHREEuWOtZEROiPUNCTUATION KUNDDALIYAiSIGN AL-LAKUNAoNUSVARAYAnCANDRABINDU",
    "nVISARGAYAiVOWEL SIGN AELA-PILLAtDIGA AEDA-PILLAyGAETTA-PILLAzbYANUKITTAyIS-PILLAyKOMBUVA",
    "yPAA-PILLAtGAETTA-PILLAvYANUKITTAtKETTI AEDA-PILLAzIS-PILLAzPAA-PILLAuOMBU DEKAyVA",
    "zb HAA AELA-PILLAzgDIGA AELA-PILLAzgGAYANUKITTAcX PETALLED BLACK AND WHITE FLORETTE",
    "fOINTED BLACK STARmPINWHEEL STARmSTAR WITH MIDDLE DOTd-PER-EM SPACEdTEEN POINTED ASTERISK",
    "bKATEBOARDcI AND SKI BOOTdERcULLf AND CROSSBONESdNKbLANTED EQUAL TO OR GREATER-THAN",
    "zh WITH DOT INSIDEuLESS-THANze WITH DOT INSIDEiNORTH ARROW WITH HOOKED HEADzcRIZONTAL TAIL",
    "dVONIC ASTERISKcEDdEPING ACCOMMODATIONjFACEjSYMBOLfY FACEdUTH OR SPYcICE OF PIZZA",
    "dGHTLY FROWNING FACEjSMILING FACEcOPEeING LARGE ANDoORdT MACHINEeHbMALL AIRPLANEhMPERSAND",
    "hSTERISKgBLUE DIAMONDgCOLONiMMAkERCIAL ATiNTAINS AS MEMBERpWITH OVERBAR",
    "uVERTICAL BAR AT END OF HORIZONTAL STROKEgDOLLAR SIGNgELEMENT OFq WITH OVERBAR",
    "wVERTICAL BAR AT END OF HORIZONTAL STROKEhM DASHhQUALS SIGNhXCLAMATION MARKgFULL STOP",
    "gGREATER-THAN SIGNgHYPHEN-MINUSgIDEOGRAPHIC COMMAgLEFT CURLY BRACKETlPARENTHESIS",
    "lTORTOISE SHELL BRACKETiSS-THAN SIGNgNUMBER SIGNgORANGE DIAMONDgPERCENT SIGNhLUS SIGN",
    "gQUESTION MARKgREVERSE SOLIDUShIGHT CURLY BRACKETmPARENTHESISmTORTOISE SHELL BRACKET",
    "hOMAN NUMERAL EIGHTvLEVENuFIFTYwVEy HUNDREDvOURuNINEuONEx HUNDREDyTHOUSANDuSEVENvIXuTENvHREE",
    "vWELVEwOgSEMICOLONgTILDEhWO DOTS OVER ONE DOT PUNCTUATIONgVEE WITH UNDERBARfER THAN",
    "m OR EQUAL TOdSH PRODUCTcILEeING CAT FACE WITH HEART-SHAPED EYESwOPEN MOUTHiFACE WITH HALO",
    "tEART-SHAPED EYEStORNSsOPEN MOUTHzd AND COLD SWEATziSMILING EYESziTIGHTLY-CLOSED EYES",
    "sSMILING EYESzf AND HAND COVERING MOUTHzkTHREE HEARTStUNGLASSESsTEARdRKING FACEcOKING SYMBOL",
    "bNAILdKEcEEZING FACEcOW CAPPED MOUNTAINeBOARDEReFLAKEeMANh WITHOUT SNOWbOcCCER BALLdKS",
    "cFT HYPHENfICE CREAMfSHELL FLOPPY DISKeBALLeWARE-FUNCTION SYMBOLcGDIAN COMBINING CURVE ABOVE",
    "yBELOWsDOT ABOVEwBELOWsHOOK ABOVExBELOWsLONG HOOK BELOWsRESH BELOWsSTROKE BELOW",
    "sTWO DOTS ABOVEzcBELOWiINDEPENDENT SHINiLETTER ALEPHqYINpBETHpFETHpGIMELpHErTHpKAPHpLAMEDH",
    "qESHpMEMpNUNpPEpRESH-AYINpSADHErMEKHqHINpTAWpWAWpYODHpZAYINiNUMBER ONEs HUNDREDpTENqWENTY",
    "iPUNCTUATION CIRCLE WITH DOTuHALF CIRCLE WITH DOTuTWO CIRCLES WITH DOTSyVERTICAL BARS",
    "zm WITH DOTScHcLID QUILT SQUARE ORNAMENTzc IN BLACK SQUAREfUSh WITH OVERBARcM SIGN",
    "cON WITH RIGHTWARDS ARROW ABOVEcRA SOMPENG DIGIT EIGHTtFIVEuOURtNINEtONEtSEVENuIXtTHREEuWO",
    "tZEROnLETTER AHuBAHuCAHuDAHuEEHvHuGAHuHAHuIHuJAHuKAHuLAHuMAEwHuNAHvGAHvYAHuOHuPAHuRAHuSAH",
    "uTAHuUHuVAHuYAHcScUND RECORDING COPYRIGHTdTH EAST ARROWq AND SOUTH WEST ARROW",
    "rCROSSING NORTH EAST ARROWrTO CORNERrWITH HOOKlBLACK ARROWlDOUBLE ARROWlPOINTING BUDuLEAF",
    "uVINE LEAFlSANS-SERIF ARROWlTRIANGLE-HEADED ARROWzh TO BARlWHITE ARROWgWEST ARROW",
    "q AND NORTH WEST ARROWrWITH HOOKlBLACK ARROWlDOUBLE ARROWlPOINTING BUDuLEAFuVINE LEAF",
    "lSANS-SERIF ARROWlTRIANGLE-HEADED ARROWzh TO BARlWHITE ARROWcYOMBO CLUSTER-INITIAL LETTER LA",
    "zgRAzgSAzhHAiFINAL CONSONANT SIGN -AzeBzeDzeGzeKzeLzeMzeNzfGzeRzeSzfHiGEMINATION MARK",
    "iHEAD MARK WITH MOON AND SUNzk AND FLAMEzpTRIPLE FLAMEiLETTER -ApApBAqHApCAqHApDAqDArHAqHA",
    "qZApGAqHApHApJAqHApKAqHAqSSApLApMApNAqGAqNAqYApPAqHApRApSAqHAqSApTAqHAqSArHAqTArHApVApYApZA",
    "qHAiMARK DOUBLE SHADnPLUTAnSHADnTSHEGiSIGN ANUSVARAnJIHVAMULIYAnUPADHMANIYAnVISARGAjUBJOINER",
    "iTERMINAL MARK-1w2iVOWEL LENGTH MARKoSIGN AIuUtEtItOuEtUuEtVOCALIC LzcRbPcAdCEdGHETTIdRKLEhS",
    "gING HEARTcEAK-NO-EVIL MONKEYfERh WITH CANCELLATION STROKEnONE SOUND WAVEnTHREE SOUND WAVES",
    "fING HEAD IN SILHOUETTEdECH BALLOONeDBOATdSMILO SIGNcHERICAL ANGLEp OPENING LEFTyUPcIDER",
    "g WEBdRAL CALENDAR PADhNOTE PADhSHELLcLASHING SWEAT SYMBOLcONGEdOL OF THREADeNdRTS MEDAL",
    "dUTING WHALEbQUARE A OVER MiARUiMiNPEAiPAATOiRUHUAiUhBAARERUjRiEETAiIRUiORUTOiQiUSSYERU",
    "hC OVER KGiALjPiCiDiMj CUBEDkSQUAREDiOjRPORATIONiUPhDAjASUiBiESIiJiLiMj CUBEDkSQUAREDiORU",
    "hEEKAAiRA NAME HEISEIqMEIZIqREIWAqSYOUWAqTAISYOUjGiSUKUUDOiVhFMiOOTjUR CORNERShGALjNMAjRONiB",
    "iHZiIGAjNIIjRUDAAiPAiURAMUnTONiYhHAjITUiEKUTAARUjRUTUiGiIRAGANA HOKAiONjONkRUiPjAiUARADDO",
    "jIITOjRANiZhIMAGE OFp OR EQUAL TOtNOT EQUAL TOiNjINGUjTIiUhK OHMiAjIRIjRATTOkORIIiBiCALiEESU",
    "iGiHZiIROlGURAMUlMEETORUlWATTOiKiLiMj CAPITALlUBEDkSQUAREDiOOPOjRUNAiPAiTiUROONEkUZEIROiViW",
    "iYURIIhLEFT OPEN BOX OPERATORiMiNiOGjZENGEiXhM CUBEDjOHMkVER Sp SQUAREDjSQUAREDiAjHHAjIKURO",
    "kRUjNSYONjRUKUiBj SMALLiEETORUjGAlTONiGiHZiIKURONjLjRIlBAARUiLiMj CUBEDkSQUAREDiOLiPAiSiU A",
    "kFkGkLkMkSkVkWiVj MEGAiWj MEGAhNAjNOiFiMiOTTOiSiViWhONSUiOMUiRIGINAL OFs OR EQUAL TO",
    "wNOT EQUAL TOiVhPAj AMPSjASENTOkTUiCiEEZIjNIHIkSUjSOiFiHiIASUTORUjKOkURUiMiOINTOjNDO",
    "jSITION INDICATORiPMiRiSiViWhRADk OVER Sr SQUAREDiEMUjNTOGENiIGHT OPEN BOX OPERATORjRAjTTORU",
    "iOOTiUPIIjUBURUhSAIKURUjNTIIMUiENTIlOiIRINGUiRiVhTARGETiHZiONhUONhV OVER MhWATTOiB",
    "iITH BOTTOM HALF BLACKmCONTOURED OUTLINEmDIAGONAL CROSSHATCH FILLmHORIZONTAL FILL",
    "mLEFT HALF BLACKnOWER LEFT DIAGONAL HALF BLACKsRIGHT DIAGONAL HALF BLACK",
    "mORTHOGONAL CROSSHATCH FILLmRIGHT HALF BLACKmTOP HALF BLACKmUPPER LEFT DIAGONAL HALF BLACK",
    "xTO LOWER RIGHT FILLsRIGHT DIAGONAL HALF BLACKyTO LOWER LEFT FILLmVERTICAL FILLhYAADOkRUiUAN",
    "gD ASTERISKiCJK UNIFIED IDEOGRAPH-4E00zi9zh2Dzh8CzhA4zf518Dzg21Dzh4Dzh72zg3CCzhF3zg408zh39",
    "zg5B6zg8F0zg91Azh29zgB57zgDE6zgF8Czf624Bzh53zh95zg307zh55zg599zhB0zg620zg708zi9zgE80zgF14",
    "zf7121zg51Fzh33zg981zgA7AzgD42zf89E3zgCA9zgD70zf904Azg14DjLjOOLiDOT OPERATORiEIGHT K",
    "iFALLING DIAGONAL SLASHjIVE POINT ONEjOUR DOT PUNCTUATIONnKjREEiHCjDRjI-RESjViIDiKATAKANA DE",
    "rKOKOrSAjEYiLATIN CAPITAL LETTER AzeBzeCzeDzeEzeFzeGzeHzeIzeJzeKzeLzeMzeNzeOzePzeQzeRzeSzeT",
    "zeUzeVzeWzeXzeYzeZoSMALL LETTER DjOGICAL ANDqORkSSLESSiMINUSjViNEWjGiOKjNE HUNDRED TWENTY P",
    "iPLUSjPViRISING DIAGONAL SLASHiSALTIREjDjECOND SCREENkVEN POINT ONEjHVjIXTY PjMALL CIRCLEjOS",
    "jQUAREjSiTHREE DjIMESjWENTY-TWO POINT TWOkO KiUHDjP WITH EXCLAMATION MARKiVODjSiWC",
    "eT BLACK RIGHTWARDS ARROWdIDbS2c3cAbTcADIUMdFF OF AESCULAPIUSjHERMESdMPED ENVELOPE",
    "dNDING PERSONdR AND CRESCENTfEQUALSfOF DAVIDgPERATORfWITH LEFT HALF BLACKkRIGHT HALF BLACK",
    "eT OF GUARDED AREAjHEADINGjPROTECTED AREAjSELECTED AREAkTRINGjTEXTdTIONeUE OF LIBERTY",
    "cEAM LOCOMOTIVEfING BOWLdNOGRAPHIC FULL STOPdTHOSCOPEcICK FIGUREm LEANING LEFTvRIGHT",
    "nWITH ARMS RAISEDsDRESScOCK CHARTdPWATCHcRAIGHT RULERiNESSeWBERRYdESS OUTLINED WHITE STAR",
    "dICTLY EQUIVALENT TOeNG TERMINATORcScUDIO MICROPHONEdFFED FLATBREADdPAcXbUBdSCRIPT EIGHT",
    "lQUALS SIGNkFIVElOURkLEFT PARENTHESISkMINUSkNINEkONEkPLUS SIGNkRIGHT PARENTHESISkSEVENlIX",
    "kTHREElWOkZEROeET ABOVE RIGHTWARDS ARROWnSUBSETpPERSEThOFj ABOVE ALMOST EQUAL TOqEQUALS SIGN",
    "qNOT EQUAL TOqTILDE OPERATORkOR EQUAL TOv WITH DOT ABOVEkWITH NOT EQUAL TOhWITH DOT",
    "mMULTIPLICATION SIGN BELOWmPLUS SIGN BELOWeTITUTEcCCEEDSi ABOVE ALMOST EQUAL TOpEQUALS SIGN",
    "pNOT ALMOST EQUAL TOtEQUAL TOpSINGLE-LINE EQUALS SIGNzcNOT EQUAL TOjBUT NOT EQUIVALENT TO",
    "jOR EQUAL TOpIVALENT TOjUNDER RELATIONcMMATION BOTTOMkTOPkWITH INTEGRALcNd BEHIND CLOUD",
    "eWITH FACEdDANESE AVAGRAHAkCONSONANT SIGN PAMINGKALzcNYAKRAzeIKUzcSANGAN MAzjWAkDIGIT EIGHT",
    "qFIVErOURqNINEqONEqSEVENrIXqTHREErWOqZEROkLETTER AsErBAsHArCArDArEsUrFAsINAL KxMrGArHArIrJA",
    "rKAsHArLAsEUrMArNAsGAsYArOrPArQArRAsEUrSAsYArTArUrVArWArXArYArZA",
    "kPUNCTUATION BINDU BA SATANGAzdCAKRAzdDA SATANGAzdKA SATANGAzdLEU SATANGAzdPANGLONGzeURNAMA",
    "zdSURYAkSIGN PAMAAEHrNGLAYARtWISADsYECEKpVIRAMAkVOWEL SIGN PAMEPETxNAELAENGyEULEUNGyGHULU",
    "yOLONGyYUKUdFLOWERdRISEh OVER MOUNTAINSdSET OVER BUILDINGScPERHEROfSCRIPT EIGHTnQUALS SIGN",
    "mFIVEnOURmLATIN SMALL LETTER IzgNnEFT PARENTHESISmMINUSmNINEmONEmPLUS SIGNmRIGHT PARENTHESIS",
    "mSEVENnIXmTHREEnWOmZEROgET ABOVE LEFTWARDS ARROWpSUBSETrPERSET",
    "jBESIDE AND JOINED BY DASH WITH SUBSETqSUBSETjOFl ABOVE ALMOST EQUAL TOsEQUALS SIGN",
    "sNOT EQUAL TOsTILDE OPERATORmOR EQUAL TOx WITH DOT ABOVEmWITH NOT EQUAL TOjPRECEDING SOLIDUS",
    "jWITH DOToMULTIPLICATION SIGN BELOWoPLUS SIGN BELOWfVILLAINcRFACE INTEGRALeERcSHI",
    "dPENSION RAILWAYbWANdSH AMPERSAND ORNAMENTcIMMERcUNG DASHbYLOTI NAGRI LETTER AuBHOvOuCHOvO",
    "uDDHOwOvHOvOuEuGHOvOuHOuIuJHOvOuKHOvOuLOuMOuNOuOuPHOvOuROvROuSOuTHOvOvTHOwOuUnPOETRY MARK-1",
    "z2z3z4nSIGN ALTERNATE HASANTAtNUSVARAsDVISVARAsHASANTAnVOWEL SIGN AyEyIyOOyU",
    "cMBOL FOR ACKNOWLEDGElBACKSPACEmELLlCANCELnRRIAGE RETURNlDATA LINK ESCAPEmELETEr FORM TWO",
    "nVICE CONTROL FOURzbONEzbTHREEzcWOlEND OF MEDIUMsTEXTtRANSMISSIONzf BLOCKnQUIRYmSCAPE",
    "lFILE SEPARATORmORM FEEDlGROUP SEPARATORlHORIZONTAL TABULATIONlLINE FEEDlMARKS CHAPTER",
    "lNEGATIVE ACKNOWLEDGEnWLINEmULLlRECORD SEPARATORlSAMARITAN SOURCEmHIFT INrOUTmPACE",
    "mTART OF HEADINGuTEXTmUBSTITUTEv FORM TWOmYNCHRONOUS IDLElTYPE A ELECTRONICSlUNIT SEPARATOR",
    "lVERTICAL TABULATIONdMETRYcNdAGOGUEdCHRONOUS IDLEcRIAC ABBREVIATION MARKhBARREKH",
    "hCOLON SKEWED LEFTuRIGHTjNTRACTIONhDOTTED ZLAMA ANGULARuHORIZONTALhEND OF PARAGRAPH",
    "iSASA ABOVEnBELOWhFEMININE DOThHARKLEAN ASTERISCUSqMETOBELUSqOBELUSiBASA ABOVEnBELOW",
    "m-ESASA DOTTEDiORIZONTAL COLONhLETTER ALAPHoBETHoDALATHpOTLESS DALATH RISHoEoFINAL SEMKATH",
    "oGAMALt GARSHUNIoHEqTHoKAPHoLAMADHoMALAYALAM BHAyJAyLLAzbLAyNGAzNAzbNAzYAyRAySSAyTTApIMoNUN",
    "oPEqRSIAN BHETHwDHALATHwGHAMALoQAPHoREVERSED PEpISHoSADHEpEMKATHpHINpOGDIAN FEwKHAPHwZHAIN",
    "pUPERSCRIPT ALAPHoTAWpETHs GARSHUNIoWAWoYUDHs HEoZAINhMUSIChOBLIQUE LINE ABOVEuBELOW",
    "hPTHAHA ABOVEoBELOWoDOTTEDhQUSHSHAYAhRBASA ABOVEnBELOWiUKKAKHAiWAHAhSUBLINEAR COLON",
    "w SKEWED LEFTzfRIGHTrFULL STOPjPRALINEAR COLONy SKEWED LEFTtFULL STOPhTHREE DOTS ABOVEsBELOW",
    "iWO VERTICAL DOTS ABOVEzBELOWhZQAPHA ABOVEoBELOWoDOTTEDeNGEaT-REXcSHIRTbAB",
    "dLE TENNIS PADDLE AND BALLcCOcG AMPERSANDfPOSTROPHEfSTERISKeCIRCUMFLEX ACCENTfOLONgMMA",
    "iERCIAL ATeDIGIT EIGHTkFIVElOURkNINEkONEkSEVENlIXkTHREElWOkZEROfOLLAR SIGNeEQUALS SIGN",
    "fXCLAMATION MARKeFULL STOPeGRAVE ACCENTgEATER-THAN SIGNeHYPHEN-MINUSeLATIN CAPITAL LETTER A",
    "zBzCzDzEzFzGzHzIzJzKzLzMzNzOzPzQzRzSzTzUzVzWzXzYzZkSMALL LETTER AxBxCxDxExFxGxHxIxJxKxLxMxN",
    "xOxPxQxRxSxTxUxVxWxXxYxZfEFT CURLY BRACKETjPARENTHESISjSQUARE BRACKETgSS-THAN SIGNfOW LINE",
    "eNUMBER SIGNePERCENT SIGNfLUS SIGNeQUESTION MARKgOTATION MARKeREVERSE SOLIDUS",
    "fIGHT CURLY BRACKETkPARENTHESISkSQUARE BRACKETeSEMICOLONfOLIDUSfPACEeTILDEeVERTICAL LINE",
    "dALOG LETTER AqRCHAIC RApBApDApGApHApIpKApLApMApNAqGApPApRApSApTApUpWApYAiSIGN PAMUDPOD",
    "nVIRAMAiVOWEL SIGN ItUdBANWA LETTER AqBAqDAqGAqIqKAqLAqMAqNArGAqPAqSAqTAqUqWAqYA",
    "jVOWEL SIGN IuUcI LE LETTER ApIpUEoEpEpHoFAoHAoIoKApHAoLAoMAoNApGAoOpOoPApHAoQAoSAoTApHA",
    "pONE-2t3t4t5t6pSAqHAoUpEoVAoXAoYAeTHAM COMBINING CRYPTOGRAMMIC DOTlNSONANT SIGN BAyFINAL NGA",
    "yHIGH RATHA OR LOW PAyLA TANG LAIzOW PAyMAzEDIAL LAzgRAySAjHORA DIGIT EIGHTuFIVEvOURuNINE",
    "uONEuSEVENvIXuTHREEvWOuZEROjLETTER AqBAqDAqEEqGREAT SAqHIGH CAwHAvFAvHAvKAwHAwXAvPAwHAvRATHA",
    "vSAwHAwSAvTAwHAvYAqIrIqLAsErLArOW CAvHAuFAuHAuKAvHAvXAuPAvHAuRATHAuSAuTAvHAuYArUEqMAqNArGA",
    "rYAqOOqRAsNAsTArUEqUrUqWAjSIGN CAANGoDOKMAIoHANGpOYoKAANsKUUpEOWpHUEN TONE-3z4z5t-LUE KARAN",
    "oMAI KANGw LAIsSAMsYAMOKoRA HAAMpEVERSED ROTATED RANAoSAKOTqTKAANvKUUqWANoTONE-1t2oWIANG",
    "tWAAKjTHAM DIGIT EIGHTuFIVEvOURuNINEuONEuSEVENvIXuTHREEvWOuZEROjVOWEL SIGN AvAvEvIuEuIvI",
    "uMAI SATuOvA ABOVExBELOWvOvYuTALL AAvHAM AIuUvEvUwEeVIET LETTER HIGH BOvCHOwOvDOvFOvGOvHO",
    "vKHHOxOwOvLOvMOvNGOwOwYOvOvPHOwOvROvSOvTHOwOvVOvYOqLOW BOuCHOvOuDOuFOuGOuHOuKHHOwOvOuLOuMO",
    "uNGOvOvYOuOuPHOvOuROuSOuTHOvOuVOuYOjMAI KANGoHITjSYMBOL HO HOIqKOI KOIsNqNUENGqSAM",
    "jTONE MAI EKsNUENGsSONGsTHOjVOWEL AAqMqNqUEqYpEpIqApOpUqAqErAcKEOUT BOXdRI ABBREVIATION SIGN",
    "gDIGIT EIGHTmFIVEnOURmNINEmONEmSEVENnIXmTHREEnWOmZEROgLETTER AoAoIoRCHAIC KHAoUnBAoHAnCAoHA",
    "nDAoDApHAoHAnEnGAoHAnHAnIoInJAoHAnKAoHAnLAnMAnNAoGAoNAoYAnOnPAoHAnRAoRAnSAoHAnTAoHAoTApHAnU",
    "oUnVAnYAgSIGN ANUSVARAlNUKTAlVIRAMAnSARGAgVOWEL SIGN AAsIsUrErIsIrOrUsUcLLY MARK FIVElONE",
    "cMALEdIL AND ODD SIGNhS ABOVE SIGNhU LENGTH MARKgCREDIT SIGNhURRENT SIGNgDAY SIGNhEBIT SIGN",
    "hIGIT EIGHTmFIVEnOURmNINEmONEmSEVENnIXmTHREEnWOmZEROhRY CULTIVATION SIGN",
    "gFRACTION DOWNSCALING FACTOR KIIZHpONE EIGHTHyIETHtFIFTHuORTIETHtHALF-1y2",
    "tONE-HUNDRED-AND-SIXTIETHtQUARTERtSIXTEENTH-1ze2xY-FOURTHtTENTHuHIRTY-SECOND",
    "vREE-HUNDRED-AND-TWENTIETHuWENTIETHpTHREE EIGHTIETHSvQUARTERSvSIXTEENTHSzY-FOURTHS",
    "vTWENTIETHSgIN POSSESSION SIGNgLAND SIGNhETTER AoAoIoUnCAnEoEnHAnIoInJAnKAnLAoLApLAnMAnNAoGA",
    "oNApNAoYAnOoOnPAnRAoRAnSAoHAoSAnTAoTAnUoUnVAnYAgMONTH SIGNgNUMBER ONE HUNDREDrTHOUSANDnSIGN",
    "nTENgOMgPUNCTUATION END OF TEXTgRUPEE SIGNgSALT PAN SIGNhIGN AAZHAAKKUmNUSVARAlCEVITUlKAACU",
    "mURUNInZHIlMUKKURUNInTHALIYAnUVUZHAKKUlNELlPAARAMnNAMnTHAKKUmONlUZHAKKUlVAKAIYARAAnRAAKAN",
    "mELImIRAMAnSARGAhPENT SIGNhTARTING FROM SIGNgTOTAL SIGNhRADITIONAL CREDIT SIGNsNUMBER SIGN",
    "gVOWEL SIGN AAsIsUrEsErIsIrOsOrUsUgWET CULTIVATION SIGNgYEAR SIGNcNABATA TREEdGERINE",
    "eSA DIGIT EIGHTnFIVEoOURnNINEnONEnSEVENoIXnTHREEoWOnZEROhLETTER ACpQpWCqQqXqZpXpZoBAoCApHA",
    "oDApHAoECpQpXpZoFApINAL NGoGApHAoHApTAqTAoICpQpXpZoKApHAoLApONG UEXoMApCpQpXpZoNApGApHApYA",
    "oOCpQpXpZoPApHAoRAoSApHAqORT AWXuUEZoTApHApSAoUCpECqQqXqZpICqQqUCrQrXrZqXqZpQpXpZoVCpQpXpZ",
    "oWAoXAoYAoZAeUT COMPONENT-001t2t3t4t5t6t7t8t9s10t1t2t3t4t5t6t7t8t9s20t1t2t3t4t5t6t7t8t9s30t1",
    "t2t3t4t5t6t7t8t9s40t1t2t3t4t5t6t7t8t9s50t1t2t3t4t5t6t7t8t9s60t1t2t3t4t5t6t7t8t9s70t1t2t3t4t5",
    "t6t7t8t9s80t1t2t3t4t5t6t7t8t9s90t1t2t3t4t5t6t7t8t9r100t1t2t3t4t5t6t7t8t9s10t1t2t3t4t5t6t7t8",
    "t9s20t1t2t3t4t5t6t7t8t9s30t1t2t3t4t5t6t7t8t9s40t1t2t3t4t5t6t7t8t9s50t1t2t3t4t5t6t7t8t9s60t1",
    "t2t3t4t5t6t7t8t9s70t1t2t3t4t5t6t7t8t9s80t1t2t3t4t5t6t7t8t9s90t1t2t3t4t5t6t7t8t9r200t1t2t3t4",
    "t5t6t7t8t9s10t1t2t3t4t5t6t7t8t9s20t1t2t3t4t5t6t7t8t9s30t1t2t3t4t5t6t7t8t9s40t1t2t3t4t5t6t7t8",
    "t9s50t1t2t3t4t5t6t7t8t9s60t1t2t3t4t5t6t7t8t9s70t1t2t3t4t5t6t7t8t9s80t1t2t3t4t5t6t7t8t9s90t1",
    "t2t3t4t5t6t7t8t9r300t1t2t3t4t5t6t7t8t9s10t1t2t3t4t5t6t7t8t9s20t1t2t3t4t5t6t7t8t9s30t1t2t3t4",
    "t5t6t7t8t9s40t1t2t3t4t5t6t7t8t9s50t1t2t3t4t5t6t7t8t9s60t1t2t3t4t5t6t7t8t9s70t1t2t3t4t5t6t7t8",
    "t9s80t1t2t3t4t5t6t7t8t9s90t1t2t3t4t5t6t7t8t9r400t1t2t3t4t5t6t7t8t9s10t1t2t3t4t5t6t7t8t9s20t1",
    "t2t3t4t5t6t7t8t9s30t1t2t3t4t5t6t7t8t9s40t1t2t3t4t5t6t7t8t9s50t1t2t3t4t5t6t7t8t9s60t1t2t3t4t5",
    "t6t7t8t9s70t1t2t3t4t5t6t7t8t9s80t1t2t3t4t5t6t7t8t9s90t1t2t3t4t5t6t7t8t9r500t1t2t3t4t5t6t7t8",
    "t9s10t1t2t3t4t5t6t7t8t9s20t1t2t3t4t5t6t7t8t9s30t1t2t3t4t5t6t7t8t9s40t1t2t3t4t5t6t7t8t9s50t1",
    "t2t3t4t5t6t7t8t9s60t1t2t3t4t5t6t7t8t9s70t1t2t3t4t5t6t7t8t9s80t1t2t3t4t5t6t7t8t9s90t1t2t3t4t5",
    "t6t7t8t9r600t1t2t3t4t5t6t7t8t9s10t1t2t3t4t5t6t7t8t9s20t1t2t3t4t5t6t7t8t9s30t1t2t3t4t5t6t7t8",
    "t9s40t1t2t3t4t5t6t7t8t9s50t1t2t3t4t5t6t7t8t9s60t1t2t3t4t5t6t7t8t9s70t1t2t3t4t5t6t7t8t9s80t1",
    "t2t3t4t5t6t7t8t9s90t1t2t3t4t5t6t7t8t9r700t1t2t3t4t5t6t7t8t9s10t1t2t3t4t5t6t7t8t9s20t1t2t3t4",
    "t5t6t7t8t9s30t1t2t3t4t5t6t7t8t9s40t1t2t3t4t5t6t7t8t9s50t1t2t3t4t5t6t7t8t9s60t1t2t3t4t5t6t7t8",
    "hITERATION MARKcPE CARTRIDGEfDRIVEcURUScXIbEACUP WITHOUT HANDLEdPOTdR-OFF CALENDAR",
    "eDROP-BARBED RIGHTWARDS ARROWjSPOKED ASTERISKcDDY BEARcLEPHONE LOCATION SIGNkON TOP OF MODEM",
    "kRECEIVERs WITH PAGEnORDERkSIGNeSCOPEeVISIONdUGU AI LENGTH MARKhDIGIT EIGHTnFIVEoOURnNINE",
    "nONEnSEVENoIXnTHREEoWOnZEROhFRACTION DIGIT ONE FOR EVEN POWERS OF FOURzfODD POWERS OF FOUR",
    "wTHREE FOR EVEN POWERS OF FOURzhODD POWERS OF FOURxWO FOR EVEN POWERS OF FOUR",
    "zfODD POWERS OF FOURwZERO FOR ODD POWERS OF FOURhLENGTH MARKjTTER ApApIpUoBApHAoCApHAoDApDA",
    "qHApHApZAoEpEoGApHAoHAoIpIoJApHAoKApHAoLApLAqLAoMAoNAqKAARA POLLUpGApNApYAoOpOoPApHAoRApRA",
    "qRAoSApHApSAoTApHApSApTAqHAoUpUoVApOCALIC LxLwRxRoYAhSIGN ANUSVARAnVAGRAHAmCANDRABINDU",
    "nOMBINING ANUSVARA ABOVEwCANDRABINDU ABOVEmNUKTAmSIDDHAMmTUUMUmVIRAMAoSARGAhVOWEL SIGN AAtI",
    "tUsEtEsItIsOtOsUtUsVOCALIC LzcLzbRzcRcNGE SIGNdNIS RACQUET AND BALLdTcST TUBE",
    "cTRAGRAM FOR ACCUMULATIONpDVANCEpGGRAVATIONpSCENToBARRIERpOLD RESOLUTIONpRANCHING OUToCENTRE",
    "pHANGEpLOSED MOUTHtNESSsUREpOMPLETIONtIANCEqNSTANCYrTACTsENTIONsRARIETYoDARKENING",
    "pECISIVENESSqFECTIVENESS OR DISTORTIONqPARTUREpIFFICULTIESqMINISHMENTrMINGqVERGENCEpOUBT",
    "pUTIESoEASEpMBELLISHMENTpNCOUNTERSqDEAVOURqLARGEMENTpTERNITYpXHAUSTIONoFAILUREpLIGHT",
    "pOLLOWINGqSTERINGpULL CIRCLEsNESSoGATHERINGx INpOING TO MEETpREATNESSpUARDEDNESSoHARDNESS",
    "pOLDING BACKoINCREASEqNERoJOYoKEEPING SMALLpINSHIPoLABOURINGqW OR MODELpEGIONoMASSINGpEASURE",
    "pIREDoON THE VERGEpPPOSITIONoPACKINGqTTERNpENETRATIONpURITYoREACHqLEASEqSIDENCEsSTANCErPONSE",
    "pITUALoSEVERANCEpINKINGpTOPPAGErVEqRENGTHoUNITYoVASTNESS OR WASTINGoWAITINGqTCHoYOUTHFULNESS",
    "bHAANA AABAAFILIiBAFILIhEBEFILIiEBEEFILIiYBEYFILIhIBIFILIhLETTER AINUpLIFUoBAAoCHAVIYANI",
    "oDAADHUqVIYANIpHAALUoFAAFUoGAAFUpHAINUpNAVIYANIoHAApHAAoJAVIYANIoKAAFUpHAAoLAAMUpHAVIYANI",
    "oMEEMUoNAApOONUoPAVIYANIoQAAFUoRAAoSAADHUpEENUpHAVIYANIqEENUoTAVIYANIpHAAsLUpOpTAAoVAAVU",
    "oWAAVUoYAAoZAAqVIYANIpOhOABOAFILIiBOFILIiOBOOFILIhSUKUNhUBUFILIdI CHARACTER ANGKHANKHU",
    "pBO BAIMAIpCHO CHANxGvINGvOEpDO CHADAsDEKpFO FAuNrNGMANpHO HIPsNOKHUKpKHO KHAIvONvUATvWAI",
    "tRAKHANGsMUTqO KAIpLAKKHANGYAOqO CHULAsLINGqUpMAI CHATTAWAtEKtHAN-AKATtTHOuRIsTAIKHUsYAMOK",
    "qO MApNGO NGUqIKHAHITqO NENtUpO ANGpPAIYANNOIqHINTHUrO PHANvUNGtSAMPHAOqO PLApRO RUAqU",
    "pSARA AvAvEvI MAIMALAIzcUANvMuEuIvIuOuUvEwEvUqO RUSIsSALAtOtUApTHANTHAKHATrO NANGMONTHO",
    "tPHUTHAOtTHAHANwNvONGvUNGqO PATAKsTAOpWO WAENpYAMAKKANqO YAKtINGgURRENCY SYMBOL BAHT",
    "fDIGIT EIGHTlFIVEmOURlNINElONElSEVENmIXlTHREEmWOlZEROcERE DOES NOT EXISTgEXISTSfFORE",
    "eMODYNAMICgMETERcIN GREEK CROSSfSALTIREgPACEeKING FACEdRD PLACE MEDALcONG SANDAL",
    "dUGHT BALLOONcREE BUTTON MOUSEgCONSECUTIVE EQUALS SIGNSgDIMENSIONAL ANGLEhOT PUNCTUATION",
    "gLEFTWARDS ARROWShINES CONVERGING LEFTxRIGHTgNETWORKED COMPUTERSgPOINTED BLACK STAR",
    "gRAYS ABOVElBELOWlLEFTlRIGHThIGHTWARDS ARROWSgSPEECH BUBBLES",
    "f-D BOTTOM-LIGHTED RIGHTWARDS ARROWHEADiLEFT-LIGHTED DOWNWARDS EQUILATERAL ARROWHEAD",
    "iRIGHT-LIGHTED UPWARDS EQUILATERAL ARROWHEADiTOP-LIGHTED LEFTWARDS EQUILATERAL ARROWHEAD",
    "uRIGHTWARDS ARROWHEADzgEQUILATERAL ARROWHEADgEM DASHgPER-EM SPACEcUMBS DOWN SIGNhUP SIGN",
    "dNDER CLOUD AND RAINhSTORMbIBETAN ASTROLOGICAL SIGN -KHYUD PAzbSDONG TSHUGS",
    "zcGRA GCAN -CHAR RTAGSiCANTILLATION SIGN CANG TE-UzbHEAVY BEATzbLIGHT BEATzbSBUB -CHAL",
    "iDIGIT EIGHToFIVEpOURoHALF EIGHTtFIVEuOURtNINEtONEtSEVENuIXtTHREEuWOtZEROoNINEoONEoSEVENpIX",
    "oTHREEpWOoZEROiKU RU KHAr BZHI MIG CANiLETTER -ApApBAqHApCAqHApDAqDArHAqHAqZArHA",
    "pFIXED-FORM RApGAqHApHApJApKAqHAqKAqSSApLApMApNAqGAqNAqYApPAqHApRAqRApSAqHAqSApTAqHAqSArHA",
    "qTArHApWApYApZAqHAjOGOTYPE SIGN CHAD RTAGSwLHAG RTAGSiMARK ANG KHANG GYASzON",
    "nBKA- SHOG GI MGO RGYANxYIG MGOoSDUS RTAGSpKA- SHOG GI MGO RGYANqUR YIG MGO",
    "nCARET -DZUD RTAGS BZHI MIG CANzgME LONG CANtYIG MGO PHUR SHAD MAoHE MGO",
    "oLOSING BRDA RNYING YIG MGO SGAB MAvYIG MGO SGAB MAnDELIMITER TSHEG BSTARnGTER TSHEG",
    "sYIG MGO -UM GTER TSHEG MAzfRNAM BCAD MAzbTRUNCATED AoUG RTAGS GYASzONnHALANTA",
    "nINITIAL BRDA RNYING YIG MGO MDUN MAvYIG MGO MDUN MApTERSYLLABIC TSHEGnLEADING MCHAN RTAGS",
    "nMNYAM YIG GI MGO RGYANnNGAS BZUNG NYI ZLAySGOR RTAGSoYIS SHADsTSHEGx SHADnPALUTA",
    "nRGYA GRAM SHADoIN CHEN SPUNGS SHADnSBRUL SHADoHADnTRAILING MCHAN RTAGSoSA -PHRUpHEG SHAD",
    "nYIG MGO TSHEG SHAD MAiSIGN GRU CAN RGYINGSrMED RGYINGSnINVERTED MCHU CANnLCE TSA CAN",
    "pI RTAGSnMAR TSHESoCHU CANnNYI ZLA NAA DAnRDEL DKAR GCIGyNYISySUMxRDEL NAGsNAG GCIGxNYISxSUM",
    "wRDEL DKARoJES SU NGA ROoNAM BCADnSNA LDANnYANG RTAGSpR TSHESjUBJOINED LETTER -AzAzBAzbHAzCA",
    "zbHAzDAzbDAzcHAzbHAzbZAzcHAzFIXED-FORM RAzlWAzlYAzGAzbHAzHAzJAzKAzbHAzbSSAzLAzMAzNAzbGAzbNA",
    "zbYAzPAzbHAzRAzSAzbHAzbSAzTAzbHAzbSAzcHAzbTAzcHAzWAzYAzZAzbHAsSIGN INVERTED MCHU CAN",
    "xLCE TSA CANxMCHU CANjYLLABLE OMkMBOL DRIL BUpNOR BUv BZHI -KHYILwGSUM -KHYILwNYIS -KHYIL",
    "pPADMA GDANqHUR PApRDO RJEw RGYA GRAMiVOWEL SIGN AAtEuEtIuItOuOtREVERSED IzeItUuUtVOCALIC L",
    "zdLzcRzdRcCKETcE OVER INFINITYcFINAGH CONSONANT JOINERjLETTER AHAGGAR YAZHrYER YAGH",
    "qBERBER ACADEMY YAHziJqTAWELLEMET YAZrUAREG YAGHzbNzHzKzbHzNGzQzZHqYAsAsBtHsCHsDtDuHtHsFsGtH",
    "uHsHtHsJsKtHuHsLsMsNsPsQsRtRsStHtSsTtHtTsVsWsYsZtHtZrEsYrIrOrU",
    "jMODIFIER LETTER LABIALIZATION MARKjSEPARATOR MARKcGERf FACEdHT TRIFOLIATE SNOWFLAKEcLDE",
    "f OPERATORo ABOVE LEFTWARDS ARROWvRIGHTWARDS ARROWpWITH DOT ABOVEuRISING DOTSgWITH DOT ABOVE",
    "pBELOWlRING ABOVEcMER CLOCKeS WITH LEFT HALF BLACKlRIGHT HALF BLACKcNY",
    "e TWO DOTS OVER ONE DOT PUNCTUATIONcRED FACEdHUTA ABBREVIATION SIGNjNJIiDIGIT EIGHToFIVEpOUR",
    "oNINEoONEoSEVENpIXoTHREEpWOoZEROiGVANGiLETTER AqAqIqUpBAqHApCAqHApDAqDArHAqHApEpGAqHApHApIqI",
    "pJAqHApKAqHApLApMApNAqGAqNAqYApOpPAqHApRApSAqHAqSApTAqHAqTArHApUqUpVAqOCALIC LyLxRyRpYAiOM",
    "iSIGN ANUSVARAoVAGRAHAnCANDRABINDUnNUKTAnVIRAMApSARGAiVOWEL SIGN AAuIuUtEtIuItOtSHORT EzOtU",
    "uUtVOCALIC LzdLzcRzdRdONIAN SIGN CAPITAL EToETbOILETcKYO TOWERcMATOcNGUEcOLBOXdTHfBRUSH",
    "cP ARC ANTICLOCKWISE ARROWzc WITH PLUSiCLOCKWISE ARROW WITH MINUSeCURLY BRACKET",
    "eHALF BLACK CIRCLEjINTEGRALjLEFT PARENTHESISjRIGHT PARENTHESISjSECTION SIGNgTeLEFT CORNER",
    "kROPjHALF BRACKETePARENTHESISeRIGHT CORNERlROPkHALF BRACKETeSQUARE BRACKET",
    "eTORTOISE SHELL BRACKETeWITH UPWARDS ARROW ABOVE",
    "cRTOISE SHELL BRACKETED CJK UNIFIED IDEOGRAPH-4E09zy8Czw52DDzxB89zw6253zx557zx72Czw70B9zx6D7",
    "zLATIN CAPITAL LETTER ScTAL RUNOUTdO LETTER AnEmBAnREATHY AEuEvOuIvUmCHAmDAmEnOmGAmHAmInUmJA",
    "mKAmLAmMAmNAnGAmOmPAmRAmSAmTAmUmWAmYAfSIGN RISING TONEbRACKBALLeTORdDE MARK SIGNdINdMe CAR",
    "dNSPLUTOfVERSAL INTERSECTIONcIANGLE WITH DOT ABOVEoROUNDED CORNERSoSERIFS AT BOTTOMoUNDERBAR",
    "i-HEADED RIGHTWARDS ARROWgULAR BULLETlFLAG ON POSTlRULERdCOLONdDENT EMBLEMdGRAM FOR EARTH",
    "mFIREmHEAVENmLAKEmMOUNTAINmTHUNDERmWATERnINDdPLE COLON OPERATORhDAGGER",
    "hHORIZONTAL BAR WITH DOUBLE VERTICAL STROKEzcTRIPLE VERTICAL STROKEhINTEGRAL",
    "hNESTED GREATER-THANoLESS-THANhPLUSiRIMEhSOLIDUS BINARY RELATIONhTILDE",
    "hVERTICAL BAR BINARY RELATIONuDELIMITERuRIGHT TURNSTILEuWITH HORIZONTAL STROKEcOLLfEYBUSdPHY",
    "eICAL DRINKjFISHcUEe LIGHT MOON ARTAdMPETbUGRIK SIGNcLIPcMBLER GLASScRKEYeISH LIRA SIGN",
    "dNED AMPERSANDiNGLEhBLACK PENTAGONnSHOGI PIECEhCAPITAL FiOMMAhDAGGERiIGIT THREEoWO",
    "hGREEK SMALL LETTER IOTAhNORTH EAST POINTING LEAFnWEST POINTING LEAFjT SIGNhOK HAND SIGN",
    "hSANS-SERIF CAPITAL GzbLzbYiEMICOLONiMALL FiOUTH EAST POINTING LEAFnWEST POINTING LEAF",
    "hWHITE SHOGI PIECEdTLEbWELVE POINTED BLACK STARcISTED RIGHTWARDS ARROWS",
    "cO ASTERISKS ALIGNED VERTICALLYeBUTTON MOUSEeCONSECUTIVE EQUALS SIGNSeDOT LEADERiPUNCTUATION",
    "hS OVER ONE DOT PUNCTUATIONeHEARTSeINTERSECTING LOGICAL ANDzOReJOINED SQUARES",
    "eLOGICAL AND OPERATORmOR OPERATOReMEN HOLDING HANDSeSPEECH BUBBLESeWOMEN HOLDING HANDS",
    "d-EM DASHaUGARITIC LETTER AINrLPAqBETAqDELTArHALqGAMLArHAINqHOsTAqIqKAFrHAqLAMDAqMEMqNUNqPU",
    "qQOPAqRASHAqSADEsMKArHINrSUqTETrHANNArOqUqWOqYODqZETArUjWORD DIVIDERbMBRELLAi ON GROUND",
    "jWITH RAIN DROPSbNAMUSED FACEcCERTAINTY SIGNcDERTIEdO SYMBOLcICORN FACEdON",
    "f ABOVE BAR ABOVE INTERSECTIONmINTERSECTIONgBESIDE AND JOINED WITH UNIONgWITH LOGICAL OR",
    "lMINUS SIGNlOVERBARdT SEPARATOReED SYMBOLdVERSAL RECYCLING SYMBOLcMARRIED PARTNERSHIP SYMBOL",
    "bP ARROW THROUGH CIRCLEiHEADm BETWEEN TWO HORIZONTAL BARSnIN A RECTANGLE BOX",
    "dBARB LEFT DOWN BARB LEFT HARPOONxRIGHT HARPOONiRIGHT DOWN BARB LEFT HARPOONyRIGHT HARPOON",
    "dDOWN ARROWn WITH BASEiBLACK ARROWiDOUBLE ARROWiSANS-SERIF ARROWiTRIANGLE-HEADED ARROW",
    "iWHITE ARROWdFISH TAILdRIGHT DIAGONAL ELLIPSISdTACKh WITH CIRCLE ABOVEc-POINTING AIRPLANE",
    "mMILITARY AIRPLANEmRED TRIANGLEmSMALL AIRPLANEsRED TRIANGLEmTRIANGLE WITH LEFT HALF BLACK",
    "zbRIGHT HALF BLACKcPER AND LEFT AND LOWER TRIANGULAR THREE QUARTERS BLOCK",
    "lOWER ONE EIGHTH BLOCKqTRIANGULAR HALF BLOCKkRIGHT AND LOWER TRIANGULAR THREE QUARTERS BLOCK",
    "gBLADE SCISSORSgFIVE EIGHTHS BLOCKgHALF BLOCKq AND LOWER HALF INVERSE MEDIUM SHADElCIRCLE",
    "lINVERSE MEDIUM SHADE AND LOWER HALF BLOCKtWHITE CIRCLElMEDIUM SHADE",
    "gLEFT BLOCK DIAGONAL LOWER CENTRE TO LOWER MIDDLE RIGHTzrUPPER MIDDLE RIGHTzxRIGHT",
    "zhLEFT TO LOWER MIDDLE RIGHTzpUPPER CENTREzvMIDDLE RIGHTzhMIDDLE LEFT TO UPPER CENTRE",
    "zzdMIDDLE RIGHTzzdRIGHTzbUPPER MIDDLE LEFT TO UPPER CENTREzzdRIGHTlCORNER WITH DOT",
    "lOR LOWER RIGHT CURLY BRACKET SECTIONlQUADRANT CIRCULAR ARClTO LOWER RIGHT FILLmRIANGLE",
    "rULAR MEDIUM SHADEgONE EIGHTH BLOCKkQUARTER BLOCK",
    "gRIGHT BLOCK DIAGONAL LOWER MIDDLE LEFT TO LOWER CENTREzzeRIGHT",
    "zcUPPER CENTRE TO LOWER MIDDLE RIGHTzyRIGHTzsUPPER MIDDLE RIGHTziLEFT TO LOWER CENTRE",
    "zwMIDDLE RIGHTzqUPPER MIDDLE RIGHTziMIDDLE LEFT TO LOWER CENTREzzeMIDDLE RIGHTzzeRIGHT",
    "mDROP-SHADOWED WHITE SQUAREmOR LOWER LEFT CURLY BRACKET SECTIONmPENCILmQUADRANT CIRCULAR ARC",
    "mSHADOWED WHITE CIRCLEzcSQUAREmTO LOWER LEFT FILLnRIANGLEsULAR MEDIUM SHADE",
    "gSEVEN EIGHTHS BLOCKgTHREE EIGHTHS BLOCKmQUARTERS BLOCKhRIANGULAR ONE QUARTER BLOCK",
    "cSIDE-DOWN FACEcWARDS ANCORAjRROWn AND RIGHT ONE EIGHTH BLOCKoFROM BAR",
    "oLEFTWARDS OF DOWNWARDS ARROWoTO BARoWITH DOUBLE STROKEtEQUILATERAL ARROWHEAD",
    "tHORIZONTAL STROKEtLARGE TRIANGLE ARROWHEADtMEDIUM TRIANGLE ARROWHEADtNOTCHED TAIL",
    "tSMALL EQUILATERAL ARROWHEADzTRIANGLE ARROWHEADtTIP LEFTWARDSxRIGHTWARDSiBLACK ARROW",
    "oCIRCLED WHITE ARROWiCOMPRESSED ARROWiDASHED ARROWjOUBLE ARROWiFINGER-POST ARROW",
    "iHARPOON WITH BARB LEFT BESIDE DOWNWARDS HARPOON WITH BARB RIGHT",
    "znUPWARDS HARPOON WITH BARB RIGHTzgFROM BARzgTO BARzfWARDSzbRIGHT FROM BARzhTO BARzgWARDS",
    "jEAVY ARROWoCOMPRESSED ARROWiPAIRED ARROWSiQUADRUPLE ARROWiROCKETiSANS-SERIF ARROW",
    "jQUARED ARROWiTRIANGLE ARROWHEADq-HEADED ARROW",
    "ze LEFTWARDS OF DOWNWARDS TRIANGLE-HEADED ARROWzfTO BARzfWITH BOLD SHAFT",
    "zkDOUBLE HORIZONTAL STROKEzkHEAVY SHAFTzkLONG TIP LEFTWARDSztRIGHTWARDSzkMEDIUM SHAFT",
    "zkNARROW SHAFTzkVERY HEAVY SHAFTyDASHED ARROWyPAIRED ARROWSlPLE ARROWjWO HEADED ARROW",
    "l-HEADED ARROW FROM SMALL CIRCLEzWITH TRIANGLE ARROWHEADSiWHITE ARROWt FROM BAR",
    "zd WITH HORIZONTAL BARuON PEDESTALzg WITH HORIZONTAL BARzmVERTICAL BAR",
    "uWITHIN TRIANGLE ARROWHEADoDOUBLE ARROWzb ON PEDESTALbRANUSbSaVAI COMMAeDIGIT EIGHTkFIVElOUR",
    "kNINEkONEkSEVENlIXkTHREElWOkZEROeFULL STOPeQUESTION MARKeSYLLABLE AoNnBAoEpEoHApEqEpIpOqOpU",
    "oIoOpOoUnCAoEpEoIoOpOoUnDAoEpEoHApEqEpHAqErEqIqOrOqUpIpOqOpUoIoOpOoUnEoEpNoNnFAoEpEoIoOpOoU",
    "nGAoBApEqEqNpIpOqNqOpUoEpEpNoIoOpOoUnHApNoEpEpNoIpNoOpNpOoUpNnIoNnJAoEpEoIoOpOoUnKApNoEpEoI",
    "oOpOoPAqNpEqEqNpIpOqOpUoUnLAoEpEpNGTHENERoIoOpOoUnMAoBApEqEpIpOqOpUoEpEoGBAqErEqIqOrOqUoIoO",
    "pOoUnNAoDApEqEpIpOqLE DOtFAtKAtMAtSOOqOpUoEpEoGpANpENpGAqErErNqIqOrOqUpONoIoJApEqEpIpOqOpUoO",
    "pOoUoYApEqEpIpOqOpUnOoNoOpNnPAoEpEoIoOpOoUnRAoEpEoIoOpOoUnSAoEpEoHApEqEpIpOqOpUoIoOpOoUnTAoE",
    "pEoHApEqEpIpOqOpUoIoOpOoUnUoNnVAoEpEoIoOpOoUnWApNoEpEqNpNoIpNoOpNpOqNoUpNnYAoEpEoIoOpOoUnZA",
    "oEpEoHApEqEpIpOqOpUoIoOpOoUgMBOL BANGlDANGmO-OnONGlFAAmEENGlJONGlKEENGmUNGlNIIlTAAmINGmONG",
    "cMPIREcRIATION SELECTOR-1u0v0v1v2v3v4v5v6v7v8v9u1v0v1v2v3v4v5v6v7v8v9u2v0v1v2v3v4v5v6v7v8v9",
    "u3v0v1v2v3v4v5v6v7v8v9u4v0v1v2v3v4v5v6v7v8v9u5v0v1v2v3v4v5v6v7v8v9u6v0v1v2v3v4v5v6v7v8v9u7v0",
    "v1v2v3v4v5v6v7v8v9u8v0v1v2v3v4v5v6v7v8v9u9v0v1v2v3v4v5v6v7v8v9t2u0v0v1v2v3v4v5v6v7v8v9u1v0v1",
    "v2v3v4v5v6v7v8v9u2v0v1v2v3v4v5v6v7v8v9u3v0v1v2v3v4v5v6v7v8v9u4v0v1v2v3v4v5v6v7v8v9u5v0v1v2v3",
    "v4v5v6u6u7u8u9t3u0u1u2u3u4u5u6u7u8u9t4u0u1u2u3u4u5u6u7u8u9t5u0u1u2u3u4u5u6u7u8u9t6u0u1u2u3u4",
    "u5u6u7u8u9t7u0u1u2u3u4u5u6u7u8u9t8u0u1u2u3u4u5u6u7u8u9t9u0u1u2u3u4u5u6u7u8u9",
    "bECTOR OR CROSS PRODUCTcDIC SIGN ANUSVARA ANTARGOMUKHAuBAHIRGOMUKHAuUBHAYATO MUKHA",
    "uVAMAGOMUKHAzg WITH TAILmRDHAVISARGAmTIKRAMAlDOUBLE ANUSVARA ANTARGOMUKHA",
    "lHEXIFORM LONG ANUSVARAlJIHVAMULIYAlLONG ANUSVARAlNIHSHVASAlREVERSED VISARGA ANUDATTA",
    "zdUDATTAmOTATED ARDHAVISARGAmTHANG LONG ANUSVARAlTIRYAKlUPADHMANIYAlVISARGA ANUDATTA",
    "zc WITH TAILtSVARITAtUDATTAz WITH TAILlYAJURVEDIC MIDLINE SVARITA",
    "gTONE ATHARVAVEDIC INDEPENDENT SVARITAlCANDRA ABOVEsBELOWlDOT BELOWnUBLE RING ABOVEsSVARITA",
    "lKARSHANAnTHAKA ANUDATTAlPRENKHAlRIGVEDIC KASHMIRI INDEPENDENT SVARITAnNG ABOVElSHARA",
    "lTHREE DOTS BELOWmRIPLE SVARITAmWO DOTS BELOWlYAJURVEDIC AGGRAVATED INDEPENDENT SVARITA",
    "wINDEPENDENT SVARITAwKATHAKA INDEPENDENT SVARITAzy SCHROEDERcRSICLE",
    "dTICAL BAR BESIDE RIGHT TRIANGLEnDOUBLE LEFT TURNSTILEnTRIPLE RIGHT TURNSTILE",
    "nWITH HORIZONTAL STROKEjELLIPSISjFOUR DOTSjIDEOGRAPHIC ITERATION MARKjKANA REPEAT MARK",
    "z LOWER HALFzbUPPER HALFvWITH VOICED SOUND MARKzs UPPER HALFjLINEn EXTENSION",
    "oWITH CIRCLE ABOVEzbBELOWtMIDDLE DOTjMALE WITH STROKE SIGNjONE EIGHTH BLOCK-2zb3zb4zb5zb6zb7",
    "jSIX DOTSjTAB KEYmULATIONt SETkILDEkRAFFIC LIGHTjZIGZAG LINEdY BOLD GREEK CROSS",
    "fHEAVY EIGHT POINTED BLACK STARrSPOKED ASTERISKlFIVE SPOKED ASTERISKlGREEK CROSS",
    "lREVERSE SOLIDUSlSALTIREmIX SPOKED ASTERISKmOLIDUSlWHITE CIRCLErSQUAREfMUCH GREATER-THAN",
    "kLESS-THANcSTAbIBRATION MODEcCTORY HANDcDEO CAMERAgGAMEfCASSETTE",
    "cETNAMESE ALTERNATE READING MARK CAzjNHAYdWDATA SQUAREcOLINcRGOcTHKUQI CAPITAL LETTER AyBBE",
    "zEyCEzHEyDEzHEyEzIyFEyGAyHAzHAyIzJEyJEyKAyLAzLAyMEyNEzJEyOyPEyQAyREySEzHEyTEzHEyUyVEyXEyYyZE",
    "jSMALL LETTER AwBBExEwCExHEwDExHEwExIwFEwGAwHAxHAwIxJEwJEwKAwLAxLAwMEwNExJEwOwPEwQAwREwSExHE",
    "wTExHEwUwVEwXEwYwZEbOIDED GREEK CROSScLCANOdLEYBALLdUME INTEGRALbS1d0e0e1e2e3e4e5e6e7e8e9d1",
    "e0e1e2e3e4e5e6e7e8e9d2e0e1e2e3e4e5e6e7e8e9d3e0e1e2e3e4e5e6e7e8e9d4e0e1e2e3e4e5e6e7e8e9d5e0e1",
    "e2e3e4e5e6e7e8e9d6e0e1e2e3e4e5e6e7e8e9d7e0e1e2e3e4e5e6e7e8e9d8e0e1e2e3e4e5e6e7e8e9d9e0e1e2e3",
    "e4e5e6e7e8e9c2d0e0e1e2e3e4e5e6e7e8e9d1e0e1e2e3e4e5e6e7e8e9d2e0e1e2e3e4e5e6e7e8e9d3e0e1e2e3e4",
    "e5e6e7e8e9d4e0e1e2e3e4e5e6e7e8e9d5e0e1e2e3e4e5e6d6d7d8d9c3d0d1d2d3d4d5d6d7d8d9c4d0d1d2d3d4d5",
    "d6d7d8d9c5d0d1d2d3d4d5d6d7d8d9c6d0d1d2d3d4d5d6d7d8d9c7d0d1d2d3d4d5d6d7d8d9c8d0d1d2d3d4d5d6d7",
    "d8d9c9d0d1d2d3d4d5d6d7d8d9bTcSbULCANUSdGAR FRACTION FIVE EIGHTHSvSIXTHSrOUR FIFTHS",
    "qONE EIGHTHuFIFTHuHALFuNINTHuQUARTERuSEVENTHvIXTHuTENTHvHIRDqSEVEN EIGHTHSqTHREE EIGHTHS",
    "wFIFTHSwQUARTERSrWO FIFTHSuTHIRDSqZERO THIRDSaWAFFLEcNCHO DIGIT EIGHTnFIVEoOURnNINEnONE",
    "nSEVENoIXnTHREEoWOnZEROhLETTER ApAqNrGpNGpUoBAoCAoDAoEpNoFAoGAoHAoIpNGoJAoKApHAoLApLHAoMAoNA",
    "pGApYAoOpNqGoPApHAoRAoSApHAoTApHApRApSAoUpENoVAoWAoYApIHoZAhNGUN SIGNhTONE KOIpNImTUPpNI",
    "dING CRESCENT MOON SYMBOLhGIBBOUS MOON SYMBOLcRANG CITI CAPITAL LETTER AzdMzdNGzdTzcBUzcDA",
    "zcEzdNNzeYzcGAzcHARzdIYOzdOLOzeRRzcIIzcKOzcNGAAzdUNGzcOzdDDzcPUzcSIIzdSUUzcTTEzcUCzdUzcVIYO",
    "zcWIzcYAzdOzdUzeJmDIGIT EIGHTsFIVEtOURsNINEsONEsSEVENtIXsTHREEtWOsZEROmNUMBER EIGHTYtFIFTY",
    "uORTYtNINETYtSEVENTYuIXTYtTENuHIRTYuWENTYmOMmSMALL LETTER AzbMzbNGzbTzBUzDAzEzbNNzcYzGAzHAR",
    "zbIYOzbOLOzcRRzIIzKOzNGAAzbUNGzOzbDDzPUzSIIzbSUUzTTEzUCzbUzVIYOzWIzYAzbOzbUzcJdNING SIGN",
    "cSTEBASKETcTCHdER BUFFALOgCLOSETgPOLOgWAVEfMELONcVE ARROW POINTING DIRECTLY LEFTzeRIGHTfDASH",
    "dING BLACK FLAGhHAND SIGNhWHITE FLAGdY DASHfLINEgOW LINEfOVERLINEcXING CRESCENT MOON SYMBOL",
    "hGIBBOUS MOON SYMBOLbEARY CAT FACEgFACEcDDINGdGE-TAILED RIGHTWARDS ARROW",
    "cIERSTRASS ELLIPTIC FUNCTIONdGHT LIFTERcST SYRIAC CROSSbHALEcEELf OF DHARMAfCHAIR SYMBOL",
    "cITE ARROW SHAFT WIDTH ONEyTWO THIRDSgBULLETgCHESS BISHOPs ROTATED NINETY DEGREES",
    "zcTWO HUNDRED SEVENTY DEGREESmEQUIHOPPERw ROTATED NINETY DEGREESmKING",
    "q ROTATED NINETY DEGREESzTWO HUNDRED SEVENTY DEGREESnNIGHTs ROTATED FORTY-FIVE DEGREES",
    "zcNINETY DEGREESzcONE HUNDRED THIRTY-FIVE DEGREESzcTHREE HUNDRED FIFTEEN DEGREES",
    "zdWO HUNDRED SEVENTY DEGREESzoTWENTY-FIVE DEGREESs-BISHOPtQUEENtROOKmPAWN",
    "q ROTATED NINETY DEGREESzTWO HUNDRED SEVENTY DEGREESmQUEENr ROTATED NINETY DEGREES",
    "zbTWO HUNDRED SEVENTY DEGREESmROOKq ROTATED NINETY DEGREESzTWO HUNDRED SEVENTY DEGREES",
    "mTURNED BISHOPtKINGuNIGHTtPAWNtQUEENtROOKhIRCLEm CONTAINING BLACK SMALL CIRCLE",
    "nWITH DOT RIGHTuWN ARROWsLOWER LEFT QUADRANTyRIGHT QUADRANTsTWO DOTSsUPPER LEFT QUADRANT",
    "yRIGHT QUADRANThLUB SUIThONCAVE-SIDED DIAMONDzc WITH LEFTWARDS TICKziRIGHTWARDS TICKgDIAMOND",
    "n CONTAINING BLACK MEDIUM DIAMONDzgSMALL DIAMONDzgVERY SMALL DIAMONDoIN SQUAREoSUIT",
    "oWITH CENTRED DOThOWN POINTING BACKHAND INDEXuINDEXuLEFT HAND INDEXk-POINTING SMALL TRIANGLE",
    "uTRIANGLEhRAUGHTS KINGpMANgEXCLAMATION MARK ORNAMENTgFLAG",
    "k WITH HORIZONTAL MIDDLE BLACK STRIPEiORETTEjWERhOUR POINTED CUSPtSTARhROWNING FACE",
    "gHARD SHELL FLOPPY DISKhEARTl SUITjVY CHECK MARKmSALTIRE WITH ROUNDED CORNERSiXAGON",
    "hORIZONTAL ELLIPSEiURGLASSgLARGE SQUAREiTIN CROSShEFT LANE MERGElPOINTING BACKHAND INDEX",
    "uINDEXk-POINTING POINTERuSMALL TRIANGLEuTRIANGLEhOZENGE CONTAINING BLACK SMALL LOZENGE",
    "gMEDIUM DIAMONDnLOZENGEnSMALL SQUAREoQUAREoTARhOON SELENAgNIBgPARALLELOGRAMhENNANTjTAGON",
    "gQUESTION MARK ORNAMENTgRECTANGLEhIGHT POINTING BACKHAND INDEXvINDEXl-POINTING PENTAGON",
    "wOINTERvSMALL TRIANGLEvTRIANGLEgSCISSORShESAME DOThHOGI PIECEhMALL LOZENGEmSQUAREnTAR",
    "iILING FACEhPADE SUIThQUAREm BUTTONnCONTAINING BLACK MEDIUM SQUAREzfSMALL SQUARE",
    "zfVERY SMALL SQUAREnWITH CENTRE VERTICAL LINEsLEFTWARDS TICKtOWER LEFT QUADRANT",
    "yRIGHT QUADRANTsRIGHTWARDS TICKtOUNDED CORNERSsUPPER LEFT QUADRANTyRIGHT QUADRANT",
    "sVERTICAL BISECTING LINEhTARhUNj BEHIND CLOUDw WITH RAINkWITH RAYSpSMALL CLOUDgTELEPHONE",
    "hOUCHTONE TELEPHONEhRAPEZIUMiIANGLE CONTAINING SMALL WHITE TRIANGLEhWO-WAY LEFT WAY TRAFFIC",
    "gUP POINTING BACKHAND INDEXsINDEXi-POINTING CHEVRONsSMALL TRIANGLEsTRIANGLEzb WITH DOT",
    "gVERTICAL BARpELLIPSEpRECTANGLEjY SMALL SQUAREf-FEATHERED RIGHTWARDS ARROW",
    "bIDE-HEADED DOWNWARDS BARB ARROWwHEAVY BARB ARROWwLIGHT BARB ARROWwMEDIUM BARB ARROW",
    "wVERY HEAVY BARB ARROWmLEFTWARDS BARB ARROWwHEAVY BARB ARROWwLIGHT BARB ARROW",
    "wMEDIUM BARB ARROWwVERY HEAVY BARB ARROWmNORTH EAST BARB ARROWxHEAVY BARB ARROW",
    "xLIGHT BARB ARROWxMEDIUM BARB ARROWxVERY HEAVY BARB ARROWsWEST BARB ARROWxHEAVY BARB ARROW",
    "xLIGHT BARB ARROWxMEDIUM BARB ARROWxVERY HEAVY BARB ARROWmRIGHTWARDS BARB ARROW",
    "xHEAVY BARB ARROWxLIGHT BARB ARROWxMEDIUM BARB ARROWxVERY HEAVY BARB ARROW",
    "mSOUTH EAST BARB ARROWxHEAVY BARB ARROWxLIGHT BARB ARROWxMEDIUM BARB ARROW",
    "xVERY HEAVY BARB ARROWsWEST BARB ARROWxHEAVY BARB ARROWxLIGHT BARB ARROWxMEDIUM BARB ARROW",
    "xVERY HEAVY BARB ARROWmUPWARDS BARB ARROWuHEAVY BARB ARROWuLIGHT BARB ARROW",
    "uMEDIUM BARB ARROWuVERY HEAVY BARB ARROWcGGLY VERTICAL LINEcLTED FLOWERcND BLOWING FACE",
    "fCHIMEeOWdE GLASSdKING FACEcRED KEYBOARDbJbOLF FACEcMANf WITH BUNNY EARSfS BOOTShCLOTHEShHAT",
    "hSANDALdENS SYMBOLcN SIGNcODcRD JOINERfSEPARATOR MIDDLE DOTdLD MAPdMdRIED FACE",
    "bRAPPED PRESENTcEATH PRODUCTdNCHdSTLERScITING HANDaX IN A RECTANGLE BOXb-RAY",
    "bIANGQI BLACK CANNONpHARIOToELEPHANToGENERALoHORSEoMANDARINoSOLDIERiRED CANNONnHARIOT",
    "mELEPHANTmGENERALmHORSEmMANDARINmSOLDIERbORaYAWNING FACEbELLOW HEARTcN SIGN",
    "cZIDI COMBINING HAMZA MARKrMADDA MARKhHYPHENATION MARKhLETTER BEoCHHIMqIMpIMoDADqLoELIFpTpW",
    "pYNoFAoGAFoHAYpHAoJAoKAFpHAFoLAMr WITH DOT ABOVEoMIMoNUNoOWoPEpHEoQAFoRApHAoSADpEpHINpINoTA",
    "pHEoUMoVAq ALTERNATE FORMoWAWoXApHEYNoYOTr WITH CIRCUMFLEX ABOVEoZAqLpEbI RADICAL BBUTmUR",
    "lCHEmIPmUOPmYnPnTlDDURmUlGAmEPmGOPnUOmOTlHMOmXITnOPnUOlJJIEnUTnYmOlKEmITlLInEmYRlMImOPlNBIE",
    "mYIPnOPmZUPlOPlPUTmYTlQOTlSHATnOPnURnYmSIlTATmUlVEPmURlWOlYITmOlZAmOTmUPnRmZIETdSYLLABLE AnP",
    "nTnXmBAoPoToXnBApPpTpXoEpPpXoIpEqPqTqXpPpTpXoOpPpTpXoUpOqPqXpPpRqXpTpXoYpPpTpXnEoPoXnIoEpPpT",
    "pXoPoToXnOoPoToXnUoOpPpXoPoRpXoToXnYoPoRpXoToXmCAoPoToXnEoPoXnHApPpTpXoEpPpTpXoOpPpTpXoUpOqP",
    "qTqXpPpRqXpXoYpPpRqXpTpXnIoEpPpTpXoPoToXnOoPoToXnUoOpPpXoPoRpXoToXnYoPoRpXoToXmDAoPoToXnDApP",
    "pTpXoEpPpXoIpEqPqXpPpTpXoOpPpTpXoUpOqPqXpPpRqXpTpXnEoPoXnIoEpPpXoPoToXnOoPoToXnUoOpXoPoRpXoT",
    "oXmEnXmFAoPoToXnIoPoToXnOoPoXnUoPoRpXoToXnYoPoToXmGAoPoToXnEoPoToXnGApPpTpXoEpPpTpXoIpEqPqX",
    "pTpXoOpPpTpXoUpOqPqTqXpPpRqXpTpXnIoEpPpTpXoPoToXnOoPoToXnUoOpPpTpXoPoRpXoToXmHAoPoToXnEoPoX",
    "nIEpXoTnLApPpTpXoEpPpXoIpEqPqXpPpTpXoOpPpXoUpOqPqXpPpRqXpTpXoYpPpRqXpTpXnMApPpTpXoIpEqPqXpP",
    "pTpXoOpPpTpXoUpOqPqXpPpRqXpTpXoYpPpRqXpXnNApPpTpXoEpPpXoIpEqPqTqXpPpTpXoOPpTpXoUOqXpTnOoPoT",
    "oXnUOpPpTpXnXApPpTpXoEpPpXoIpEqPqTqXpPpTpXoOpPpTpXoUOqPqTqXmInEoPoToXnPnToERATION MARKnXmJI",
    "oEpPpTpXoPoToXnJIpEqPqTqXpPpTpXoOpPpTpXoUpOqPqXpPpRqXpTpXoYpPpTpXnOoPoToXnUoOpPpTpXoPoRpXoT",
    "oXnYoPoRpXoToXmKAoPoToXnEoPoToXnIoEpPpXoPoToXnOoPoToXnUoOpPpXoPoRpXoToXmLAoPoToXnEoPoXnIoEpP",
    "pTpXoPoToXnOoPoToXnUoOpPpTpXoPoRpXoToXnYoPoRpXoToXmMAoPoToXnEoXnGApPpTpXoEpPpXoIEqXoOpPpTpX",
    "oUpOqPqXpPpRqXpTpXnIoEpPpXoPoToXnOoPoToXnUoOpPpTpXoPoRpXoToXnYoPoToXmNAoPoXnBApPpTpXoIpEqPqX",
    "pPpTpXoOpPpTpXoUpPpRqXpTpXoYpPpRqXpTpXnDApPpTpXoEpPpXoIpEqXpPpTpXoOpPpTpXoUpPpRqXpTpXnEoPoX",
    "nGApPpTpXoEpPpXoIEqPqXoOpPpTpXoUOqTqXnIoEpPpXoPoToXnJIpEqPqTqXpPpTpXoOpPpTpXoUpOqXpPpRqXpXoY",
    "pPpRqXpTpXnOoPoToXnRApPpTpXoEpPpTpXoOpPpXoUpPpRqXpTpXoYpPpRqXpTpXnUoOpPpXoPoRpXoToXnYIpEqPqT",
    "qXpPpTpXoOpPpTpXoUpOqPqXpPpTpXnZApPpTpXoEpXoIpEqPqXpPpTpXoOPpXoUpOqXpPpRqXpXoYpPpRqXpTpXmOnP",
    "nTnXmPAoPoToXnIoEpPpXoPoToXnOoPoToXnUoOpPpXoPoRpXoToXnYoPoRpXoToXmQIoEpPpTpXoPoToXnOoPoToXnU",
    "oOpPpTpXoPoRpXoToXnYoPoRpXoToXmRAoPoToXnEoPoXnOoPoToXnRApXoEpPpTpXoOpPpTpXoUpOqXpPpRqXpTpXoY",
    "pPpRqXpTpXnUoOpPpXoPoRpXoToXnYoPoRpXoToXmSAoPoToXnEoPoXnHApPpTpXoEpPpTpXoOpPpTpXoUpOqPqXpPpR",
    "qXpTpXoYpPpRqXpTpXnIoEpPpXoPoToXnOoPoToXnSApPpTpXoEpPpXoIpEqPqXpPpTpXoOpPpTpXoUpPpTpXoYpPpR",
    "qXpTpXnUoOpPpXoPoRpXoToXnYoPoRpXoToXmTAoPoToXnEoPoXnIoEpPpXoPoToXnOoPoToXnUoOpPpTpXoPoRpXoT",
    "oXmUOoPoXmVAoPoToXnEPoXnIoEpPpTpXoPoToXnOoPoToXnUoPoRpXoToXnYoPoRpXoToXmWAoPoToXnEoPoXnOoPoX",
    "nUoOpPpXmXIoEpPpTpXoPoToXnOoPoToXnUOpXnYoPoRpXoToXmYIoEpPpTpXoPoToXnOoPoToXnUoOpPpTpXoPoRpX",
    "oToXnYoPoRpXoToXmZAoPoToXnEoPoXnHApPpTpXoEpPpTpXoOpPpTpXoUpOqPqXpPpRqXpTpXoYpPpRqXpTpXnIoEpP",
    "pXoPoToXnOoPoToXnUoOpPpXoPoRpXoToXnYoPoRpXoToXnZApPpTpXoEpPpXoIpEqPqTqXpPpTpXoOpPpXoUpPpRqX",
    "pXoYpPpRqXpTpXcN YANGbO-YOaZ NOTATION BAG MEMBERSHIPlDOMAIN ANTIRESTRICTION",
    "lLEFT BINDING BRACKETqIMAGE BRACKETlRANGE ANTIRESTRICTIONmELATIONAL COMPOSITION",
    "mIGHT BINDING BRACKETrIMAGE BRACKETlSCHEMA COMPOSITIONsPIPINGtROJECTIONmPOTlTYPE COLON",
    "bANABAZAR SQUARE CLOSING DOUBLE-LINED HEAD MARKzHEAD MARKtUSTER-FINAL LETTER LAznRAznVAznYA",
    "zINITIAL LETTER RArFINAL CONSONANT MARKrINITIAL DOUBLE-LINED HEAD MARKzHEAD MARKrLETTER -AyA",
    "yBAzHAyCAzHAyDAzDAzbHAzHAzZAzbHAyGAzHAyHAyJAyKAzHAzSSAyLAyMAyNAzGAzNAzYAyPAzHAyRAySAzHAzSA",
    "yTAzHAzSAzbHAzTAzbHAyVAyYAyZAzHArMARK DOUBLE SHADwLONG TSHEGwSHADwTSHEGrSIGN ANUSVARA",
    "wCANDRA WITH ORNAMENTzdBINDUzi WITH ORNAMENTwVIRAMAySARGAsUBJOINERrVOWEL LENGTH MARKxSIGN AI",
    "zeUzdEzdIzdOzeEzdREVERSED IzdUzeEbEBRA FACEcRO WIDTH JOINERlNO-BREAK SPACEnN-JOINERlSPACEcUS",
    "bIPPER-MOUTH FACEbNAMENNY COMBINING ATTACHING VERTICAL OMETtLOWER TONAL RANGE INDICATOR",
    "tMARK BORZAYAyCHASHKAzg POLNAYAzURVED OMETyDEMESTVENNY ZADERZHKAzVOETOCHIE",
    "yGORAZDO NIZKO ON LEFTzqRIGHTznS KRYZHEM ON LEFTzzbRIGHTzhVYSOKOyKACHKAzRYZHze ON LEFT",
    "zUPNAYAyLOMKAyMALO POVYSHE ON LEFTzpRIGHTzmS KHOKHLOM ON LEFTzzbRIGHTzpRYZHEMznTRANNO",
    "yNIZKO ON LEFTziRIGHTzfS KRYZHEM ON LEFTzsRIGHTyOBLACHKOzNzTSECHKAyPODCHASHIE",
    "zj WITH VERTICAL STROKEzcVERTKAzbVYSHE ON LEFTzkRIGHTzhS KHOKHLOM ON LEFTzvRIGHTzkRYZHEM",
    "ziTRANNOyRAVNOzbZSEKAySKOBAzOROCHYA NOZHKAzREDNE ON LEFTzjRIGHTzTRANNO MALO POVYSHEyTIKHAYA",
    "zOCHKAzSATA ON LEFTziRIGHTzfS KRYZHEMyUDARKAyVYSOKO ON LEFTzjRIGHTzgS KHOKHLOM ON LEFT",
    "zuRIGHTzjRYZHEMyZADERZHKAzELOzbVOKtTONAL RANGE MARK MRACHNOzlSVETLOzlTRESVETLOjNEUME CHASHKA",
    "rELYUSTKApDEMESTVENNY KLYUCHrRBITSAqOUBLE ZAPYATAYAqUDAqVA V CHELNUpFITApGOLUBCHIK BORZY",
    "zMRACHNYzSVETLYzTIKHYzbRESVETLYpKHAMILOqLYUCHqOBYLAqRYUKu TIKHYsZHqUFISMApMECHIK",
    "v KLYUCHENEPOSTOYANNYzePOVODNYzeVOYwPOVODNYpNEMKApOBLAKOqSOKAu KLYUCHEVAYA NEPOSTOYANNAYA",
    "ziSVETLAYAwRYUKOVAYA SVETLAYAvSVETLAYAvTRESVETLAYApPALKArRAKLITrUKqEREVODKAy NEPOSTOYANNAYA",
    "qODCHASHIErLKULIZMYpREVERSED CHELYUSTKAqOGpSKAMEYTSA DVOECHELNAYA KLYUCHEVAYA",
    "znNEPOSTOYANNAYAznPROSTAYAznSVETLAYAzKLYUCHENEPOSTOYANNAYAzhVAYA SVETLAYAzmTIKHAYAzMRACHNAYA",
    "zSVETLAYAzTIKHAYAzbRESVETLAYAqLOZHITIEy S KRYZHEMzcZAPYATOYzZAKRYTOEqTATYAv NEPOSTOYANNAYA",
    "wS DVUMYA ZAPYATYMIyKRYZHEMzg I ZAPYATOYyROGOMyZAPYATOYzh I KRYZHEMzkPODCHASHIEMwZAKRYTAYA",
    "zg S ZAPYATOYrOPITSAx S OCHKOMyWITH SOROCHYA NOZHKArRELA DVOECHELNAYAzj KLYUCHEVAYA",
    "zgOKRYZHEVAYAzhPOVODNAYAzq KLYUCHEVAYAwGROMNAYAzf WITH SINGLE ZAPYATAYAzbOKRYZHEVAYA",
    "zm POVODNAYAzcPOVODNAYAzl WITH DOUBLE ZAPYATAYAzrSINGLE ZAPYATAYAwKLYUCHENEPOSTOYANNAYA",
    "zePOVODNAYAxRYUKOVAYAzh GROMNAYAzq WITH SINGLE ZAPYATAYAzmOKRYZHEVAYAzx POVODNAYAznPOVODNAYA",
    "zw WITH DOUBLE ZAPYATAYAzzdSINGLE ZAPYATAYAziPOVODNAYAziTRYASKAzZHEVAYAwMRACHNOTIKHAYA",
    "wNEPOSTOYANNAYAwPOLUPOVODNAYAyVODNAYAxROSTAYAwTIKHAYA PUTNAYAxRYASOGLASNAYAzdPOVODNAYA",
    "zdSTRELNAYApVRAKHIYA KLYUCHEVAYA MRACHNAYAzlPROSTAYAzlSVETLAYAzlTRESVETLAYAyMRACHNAYA",
    "yPROSTAYAySVETLAYAyTRESVETLAYApZANOZHEKrPYATAYAqMEYTSAjPRIZNAK MODIFIER DIRECTION FLIP",
    "zbKRYZHzbLEVEL-2zh3zbROGbOMBIEbWJcNBSPdJcSP"]

/-- How much a small letter counts. -/
def letterCount (c : Char) : Nat := c.toNat - 'a'.toNat

/-- A name is spelled by a text, so much of the name `before` having to stay, `spelled` standing
behind it, the last character first. -/
def isSpelled (name : Text) : (before : Text) → (keep : Nat) → (spelled : Text) → Text → Bool
  | before, keep, spelled, [] => before.take keep ++ spelled.reverse == name
  | before, keep, spelled, c :: r =>
    if !c.isLower then isSpelled name before keep (c :: spelled) r
    else if spelled.isEmpty then isSpelled name before (keep + letterCount c) [] r
    else
      let other := before.take keep ++ spelled.reverse
      other == name || isSpelled name other (letterCount c) [] r

def isListed (name : Text) : Bool := isSpelled name [] 0 [] (nameLines.flatMap String.toList)

/-! ## Names by rule -/

def isHexCapital (c : Char) : Bool := c.isDigit || ('A' ≤ c && c ≤ 'F')

def hexCapitals (t : Text) : Nat :=
  t.foldl (fun n c => 16 * n + if c.isDigit then c.toNat - '0'.toNat else c.toNat - 'A'.toNat + 10) 0

/-- The name is a beginning with the number of a character in some ranges behind it, in four or
five digits. -/
def isNumbered (beginning : String) (ranges : List (Nat × Nat)) (name : Text) : Bool :=
  (Text.dropStart? beginning.toList name).any fun digits =>
    (digits.length = 4 || digits.length = 5) && digits.all isHexCapital
      && inRanges ranges (hexCapitals digits)

def isZeroed (name : Text) : Bool := Text.occursIn ['-', '0'] name

def numberedNames : List (String × List (Nat × Nat)) :=
  [("CJK COMPATIBILITY IDEOGRAPH-", [(0xF900, 0xFA6D), (0xFA70, 0xFAD9), (0x2F800, 0x2FA1D)]),
    ("KHITAN SMALL SCRIPT CHARACTER-", [(0x18B00, 0x18CD5)]),
    ("NUSHU CHARACTER-", [(0x1B170, 0x1B2FB)])]

def ideographRanges : List (Nat × Nat) :=
  [(0x3400, 0x4DBF), (0x4E00, 0x9FFF), (0x20000, 0x2A6DF), (0x2A700, 0x2B738), (0x2B740, 0x2B81D),
    (0x2B820, 0x2CEA1), (0x2CEB0, 0x2EBE0), (0x30000, 0x3134A)]

def syllableHeads : List Text :=
  ["G", "GG", "N", "D", "DD", "R", "M", "B", "BB", "S", "SS", "", "J", "JJ", "C", "K", "T", "P",
    "H"].map String.toList

def syllableHearts : List Text :=
  ["A", "AE", "YA", "YAE", "EO", "E", "YEO", "YE", "O", "WA", "WAE", "OE", "YO", "U", "WEO", "WE",
    "WI", "YU", "EU", "YI", "I"].map String.toList

def syllableTails : List Text :=
  ["", "G", "GG", "GS", "N", "NJ", "NH", "D", "L", "LG", "LM", "LB", "LS", "LT", "LP", "LH", "M",
    "B", "BS", "S", "SS", "NG", "J", "C", "K", "T", "P", "H"].map String.toList

def isSyllable (t : Text) : Bool :=
  syllableHeads.any fun head =>
    (Text.dropStart? head t).any fun rest =>
      syllableHearts.any fun heart => (Text.dropStart? heart rest).any syllableTails.contains

/-! ## All names -/

/-- A character has that name. Small letters count as capital ones, but not in the names of
ideographs and of syllables; only in those of ideographs may a zero stand in front of a number. -/
def isCharName (name : Text) : Bool :=
  let capitals := name.map Char.toUpper
  isNumbered "CJK UNIFIED IDEOGRAPH-" ideographRanges name
    || (Text.dropStart? "HANGUL SYLLABLE ".toList name).any isSyllable
    || numberedNames.any (fun e => isNumbered e.1 e.2 capitals && !isZeroed name)
    || isListed capitals

theorem isCharName_syllable {t : Text} (h : isSyllable t = true) :
    isCharName ("HANGUL SYLLABLE ".toList ++ t) = true := by
  have rest : Text.dropStart? "HANGUL SYLLABLE ".toList ("HANGUL SYLLABLE ".toList ++ t) = some t :=
    Text.dropStart?_eq_some_iff.2 rfl
  rw [isCharName, rest]
  simp only [Option.any_some, h, Bool.or_true, Bool.true_or]

end SdkGraft
