namespace TapeMachine.Text

/-- The names of the characters, in order, but for those that are made up of parts. Each begins with
a small letter that says how many words it has from the front of the one before, `a` for none, and
its further words follow. -/
def nameLines : List String :=
  ["aABACUSaAC CURRENTaACCORDIONaACCOUNT OFaACKaACKNOWLEDGEaACTIVATE ARABIC FORM SHAPING",
   "bSYMMETRIC SWAPPINGaACUTE ACCENTbANGLEaADDRESSED TO THE SUBJECTaADHESIVE BANDAGEaADI SHAKTI",
   "aADLAM ALIF LENGTHENERbCAPITAL LETTER ALIFdBAdBHEdCHIdDAALIdDHAdEdFAdGAdGBEdHAdIdJIIMdKAFdKHA",
   "dKPOdLAAMdMIIMdNHAdNUNdNYAdOdPEdQAAFdRAdSHAdSINNYIIYHEdTUdUdVAdWAWdYAdYHEdZAL",
   "bCONSONANT MODIFIERbDIGIT EIGHTcFIVEcFOURcNINEcONEcSEVENcSIXcTHREEcTWOcZERO",
   "bGEMINATE CONSONANT MODIFIERbGEMINATION MARKbHAMZAbINITIAL EXCLAMATION MARKcQUESTION MARK",
   "bNASALIZATION MARKbNUKTAbSMALL LETTER ALIFdBAdBHEdCHIdDAALIdDHAdEdFAdGAdGBEdHAdIdJIIMdKAFdKHA",
   "dKPOdLAAMdMIIMdNHAdNUNdNYAdOdPEdQAAFdRAdSHAdSINNYIIYHEdTUdUdVAdWAWdYAdYHEdZALbVOWEL LENGTHENER",
   "aADMETOSaADMISSION TICKETSaADULTaAEGEAN CHECK MARKbDRY MEASURE FIRST SUBUNIT",
   "bLIQUID MEASURE FIRST SUBUNITbMEASURE SECOND SUBUNITcTHIRD SUBUNITbNUMBER EIGHTdHUNDRED",
   "dTHOUSANDcEIGHTYdTHOUSANDcFIFTYdTHOUSANDcFIVEdHUNDREDdTHOUSANDcFORTYdTHOUSANDcFOURdHUNDRED",
   "dTHOUSANDcNINEdHUNDREDdTHOUSANDcNINETYdTHOUSANDcONEdHUNDREDdTHOUSANDcSEVENdHUNDREDdTHOUSAND",
   "cSEVENTYdTHOUSANDcSIXdHUNDREDdTHOUSANDcSIXTYdTHOUSANDcTENdTHOUSANDcTHIRTYdTHOUSANDcTHREE",
   "dHUNDREDdTHOUSANDcTWENTYdTHOUSANDcTWOdHUNDREDdTHOUSANDbWEIGHT BASE UNITcFIRST SUBUNIT",
   "cFOURTH SUBUNITcSECOND SUBUNITcTHIRD SUBUNITbWORD SEPARATOR DOTdLINEaAERIAL TRAMWAY",
   "aAFGHANI SIGNaAHOM CONSONANT SIGN MEDIAL LAeLIGATING RAeRAbDIGIT EIGHTcFIVEcFOURcNINEcONE",
   "cSEVENcSIXcTHREEcTWOcZERObLETTER AcALTERNATE BAdGAdTAcBAcBHAcCAcCHAcDAcDDAcDDHAcDHAcGAcGHAcHA",
   "cJAcJHAcKAcKHAcLAcLLAcMAcNAcNGAcNNAcNYAcPAcPHAcRAcSAcTAcTHAcTTAcTTHAbNUMBER TENcTWENTY",
   "bSIGN KILLERcRULAIcSECTIONcSMALL SECTIONbSYMBOL VIbVOWEL SIGN AdAAdAIdAMdAWdEdIdIIdOdUdUU",
   "aAIRPLANEbARRIVINGbDEPARTUREaAKTIESELSKABaALARM CLOCKaALCHEMICAL SYMBOL FOR AIRdALEMBICdALKALI",
   "dALKALI-2dALUMdAMALGAMdANTIMONY OREdAQUA REGIAeREGIA-2eVITAEeVITAE-2dAQUAFORTISdARSENICdASHES",
   "dAURIPIGMENTdBATH OF MARYfVAPOURSdBISMUTH OREdBLACK SULFURdBORAXdBORAX-2dBORAX-3dBRICK",
   "dCADUCEUSdCALXdCAPUT MORTUUMdCINNABARdCOPPER ANTIMONIATEeOREdCROCUS OF COPPERfCOPPER-2fIRON",
   "dCRUCIBLEdCRUCIBLE-2dCRUCIBLE-3dCRUCIBLE-4dCRUCIBLE-5dDAY-NIGHTdDISSOLVEdDISSOLVE-2dDISTILL",
   "dEARTHdFIREdGOLDdGUMdHALF DRAMeOUNCEdHORSE DUNGdHOURdIRON OREeORE-2dIRON-COPPER OREdLEAD ORE",
   "dLODESTONEdMARCASITEdMERCURY SUBLIMATEeSUBLIMATE-2eSUBLIMATE-3dMONTHdNIGHTdNITREdOIL",
   "dPHILOSOPHERS SULFURdPOT ASHESdPOWDERdPOWDERED BRICKdPRECIPITATEdPURIFYdPUTREFACTION",
   "dQUICK LIMEdQUINTESSENCEdREALGARdREALGAR-2dREGULUSeOF ANTIMONYfANTIMONY-2fIRONdREGULUS-2",
   "dREGULUS-3dREGULUS-4dRETORTdROCK SALTeSALT-2dSAL-AMMONIACdSALTeOF ANTIMONYfCOPPER ANTIMONIATE",
   "dSCEPTER OF JOVEdSILVERdSOAPdSPIRITdSTARRED TRIDENTdSTRATUM SUPER STRATUMfSTRATUM-2",
   "dSUBLIMATE OF ANTIMONYfCOPPERfSALT OF ANTIMONYhCOPPERdSUBLIMATIONdSULFURdTARTARdTARTAR-2",
   "dTIN OREdTINCTUREdTRIDENTdTUTTYdURINEdVERDIGRISdVINEGAReOF ANTIMONYdVINEGAR-2dVINEGAR-3",
   "dVITRIOLdVITRIOL-2dWATERdWAXaALEF SYMBOLaALEMBICaALERTaALIEN MONSTERaALL AROUND-PROFILE",
   "bEQUAL TOaALMaALMOST EQUAL OR EQUAL TOcTOdWITH CIRCUMFLEX ACCENT",
   "aALTERNATE ONE-WAY LEFT WAY TRAFFICaALTERNATIVE KEY SYMBOLaAMALGAMATION OR COPRODUCTaAMBULANCE",
   "aAMERICAN FOOTBALLaAMPERSANDaAMPHORAaANATOLIAN HIEROGLYPH A001cA002cA003cA004cA005cA006cA007",
   "cA008cA009cA010cA010AcA011cA012cA013cA014cA015cA016cA017cA018cA019cA020cA021cA022cA023cA024",
   "cA025cA026cA026AcA027cA028cA029cA030cA031cA032cA033cA034cA035cA036cA037cA038cA039cA039AcA040",
   "cA041cA041AcA042cA043cA044cA045cA045AcA046cA046AcA046BcA047cA048cA049cA050cA051cA052cA053cA054",
   "cA055cA056cA057cA058cA059cA060cA061cA062cA063cA064cA065cA066cA066AcA066BcA066CcA067cA068cA069",
   "cA070cA071cA072cA073cA074cA075cA076cA077cA078cA079cA080cA081cA082cA083cA084cA085cA086cA087",
   "cA088cA089cA090cA091cA092cA093cA094cA095cA096cA097cA097AcA098cA098AcA099cA100cA100AcA101cA101A",
   "cA102cA102AcA103cA104cA104AcA104BcA104CcA105cA105AcA105BcA106cA107cA107AcA107BcA107CcA108cA109",
   "cA110cA110AcA110BcA111cA112cA113cA114cA115cA115AcA116cA117cA118cA119cA120cA121cA122cA123cA124",
   "cA125cA125AcA126cA127cA128cA129cA130cA131cA132cA133cA134cA135cA135AcA136cA137cA138cA139cA140",
   "cA141cA142cA143cA144cA145cA146cA147cA148cA149cA150cA151cA152cA153cA154cA155cA156cA157cA158",
   "cA159cA160cA161cA162cA163cA164cA165cA166cA167cA168cA169cA170cA171cA172cA173cA174cA175cA176",
   "cA177cA178cA179cA180cA181cA182cA183cA184cA185cA186cA187cA188cA189cA190cA191cA192cA193cA194",
   "cA195cA196cA197cA198cA199cA200cA201cA202cA202AcA202BcA203cA204cA205cA206cA207cA207AcA208cA209",
   "cA209AcA210cA211cA212cA213cA214cA215cA215AcA216cA216AcA217cA218cA219cA220cA221cA222cA223cA224",
   "cA225cA226cA227cA227AcA228cA229cA230cA231cA232cA233cA234cA235cA236cA237cA238cA239cA240cA241",
   "cA242cA243cA244cA245cA246cA247cA248cA249cA250cA251cA252cA253cA254cA255cA256cA257cA258cA259",
   "cA260cA261cA262cA263cA264cA265cA266cA267cA267AcA268cA269cA270cA271cA272cA273cA274cA275cA276",
   "cA277cA278cA279cA280cA281cA282cA283cA284cA285cA286cA287cA288cA289cA289AcA290cA291cA292cA293",
   "cA294cA294AcA295cA296cA297cA298cA299cA299AcA300cA301cA302cA303cA304cA305cA306cA307cA308cA309",
   "cA309AcA310cA311cA312cA313cA314cA315cA316cA317cA318cA319cA320cA321cA322cA323cA324cA325cA326",
   "cA327cA328cA329cA329AcA330cA331cA332AcA332BcA332CcA333cA334cA335cA336cA336AcA336BcA336CcA337",
   "cA338cA339cA340cA341cA342cA343cA344cA345cA346cA347cA348cA349cA350cA351cA352cA353cA354cA355",
   "cA356cA357cA358cA359cA359AcA360cA361cA362cA363cA364cA364AcA365cA366cA367cA368cA368AcA369cA370",
   "cA371cA371AcA372cA373cA374cA375cA376cA377cA378cA379cA380cA381cA381AcA382cA383 RA OR RIcA383A",
   "cA384cA385cA386cA386AcA387cA388cA389cA390cA391cA392cA393 EIGHTcA394cA395cA396cA397cA398cA399",
   "cA400cA401cA402cA403cA404cA405cA406cA407cA408cA409cA410 BEGIN LOGOGRAM MARK",
   "cA410A END LOGOGRAM MARKcA411cA412cA413cA414cA415cA416cA417cA418cA419cA420cA421cA422cA423cA424",
   "cA425cA426cA427cA428cA429cA430cA431cA432cA433cA434cA435cA436cA437cA438cA439cA440cA441cA442",
   "cA443cA444cA445cA446cA447cA448cA449cA450cA450AcA451cA452cA453cA454cA455cA456cA457cA457AcA458",
   "cA459cA460cA461cA462cA463cA464cA465cA466cA467cA468cA469cA470cA471cA472cA473cA474cA475cA476",
   "cA477cA478cA479cA480cA481cA482cA483cA484cA485cA486cA487cA488cA489cA490cA491cA492cA493cA494",
   "cA495cA496cA497cA501cA502cA503cA504cA505cA506cA507cA508cA509cA510cA511cA512cA513cA514cA515",
   "cA516cA517cA518cA519cA520cA521cA522cA523cA524cA525cA526cA527cA528cA529cA530aANATOMICAL HEART",
   "aANCHORaAND WITH DOTaANGER SYMBOLaANGLEbWITH S INSIDEcUNDERBARaANGRY FACEaANGSTROM SIGN",
   "aANGUISHED FACEaANKHaANTaANTENNA WITH BARSaANTICLOCKWISE CLOSED CIRCLE ARROWbCONTOUR INTEGRAL",
   "bDOWNWARDS AND UPWARDS OPEN CIRCLE ARROWSbGAPPED CIRCLE ARROWbINTEGRATIONbOPEN CIRCLE ARROW",
   "bTOP SEMICIRCLE ARROWbTRIANGLE-HEADED BOTTOM U-SHAPED ARROWcLEFT U-SHAPED ARROW",
   "cOPEN CIRCLE ARROWcRIGHT U-SHAPED ARROWcTOP U-SHAPED ARROWaAPCaAPL FUNCTIONAL SYMBOL ALPHA",
   "eUNDERBARdBACKSLASH BARdCIRCLE BACKSLASHeDIAERESISeJOTeSTAReSTILEeUNDERBARdCOMMA BAR",
   "dDEL DIAERESISeSTILEeTILDEdDELTA STILEeUNDERBARdDIAMOND UNDERBARdDOWN CARET TILDEeSHOE STILE",
   "eTACK JOTfUNDERBARdDOWNWARDS VANEdEPSILON UNDERBARdGREATER-THAN DIAERESISdI-BEAMdIOTAeUNDERBAR",
   "dJOT DIAERESISeUNDERBARdLEFT SHOE STILEdLEFTWARDS VANEdOMEGAeUNDERBARdQUADeBACKSLASHeCIRCLE",
   "eCOLONeDELeDELTAeDIAMONDeDIVIDEeDOWN CARETeDOWNWARDS ARROWeEQUALeGREATER-THANeJOT",
   "eLEFTWARDS ARROWeLESS-THANeNOT EQUALeQUESTIONeRIGHTWARDS ARROWeSLASHeUP CARETeUPWARDS ARROW",
   "dQUOTE QUADeUNDERBARdRHOdRIGHTWARDS VANEdSEMICOLON UNDERBARdSLASH BARdSQUISH QUAD",
   "dSTAR DIAERESISdSTILE TILDEdTILDE DIAERESISdUP CARET TILDEeSHOE JOTeTACK DIAERESISfJOTfOVERBAR",
   "dUPWARDS VANEdZILDEaAPOLLONaAPOSTROPHEaAPPLICATION PROGRAM COMMANDaAPPROACHES THE LIMIT",
   "aAPPROXIMATELY BUT NOT ACTUALLY EQUAL TObEQUAL OR EQUAL TOcTOdOR THE IMAGE OFaAQUARIUS",
   "aARABIC BASELINE ROUND DOTbCOMMAbCURLY DAMMAcDAMMATANcFATHAcFATHATANcKASRAcKASRATANbDAMMA",
   "cISOLATED FORMcMEDIAL FORMcWITH DOTbDAMMATANcISOLATED FORMbDATE SEPARATORbDECIMAL SEPARATOR",
   "bDISPUTED END OF AYAHbDOUBLE RIGHT ARROWHEAD ABOVEfWITH DOTbDOUBLED MADDA",
   "bEMPTY CENTRE HIGH STOPdLOW STOPbEND OF AYAHdTEXT MARKbFATHAcISOLATED FORMcMEDIAL FORM",
   "cWITH DOT ABOVEdRINGdTWO DOTSbFATHATANcISOLATED FORMbFIVE POINTED STARbFOOTNOTE MARKER",
   "bFULL STOPbHALF MADDA OVER MADDAbHAMZA ABOVEcBELOWbINVERTED DAMMAbKASRAcISOLATED FORM",
   "cMEDIAL FORMcWITH DOT BELOWbKASRATANcISOLATED FORMbLARGE CIRCLE BELOWcROUND DOT ABOVEeBELOW",
   "eINSIDE CIRCLE BELOWbLEFT ARROWHEAD ABOVEdBELOWbLETTER AEcAFRICAN FEHdNOONdQAF",
   "eWITH THREE DOTS ABOVEcAINdFINAL FORMdINITIAL FORMdISOLATED FORMdMEDIAL FORM",
   "dWITH THREE DOTS ABOVEgBELOWgPOINTING DOWNWARDS ABOVEeTWO DOTS ABOVEgVERTICALLY ABOVEcALEF",
   "dFINAL FORMdISOLATED FORMdMAKSURAeFINAL FORMeISOLATED FORMdWASLAeFINAL FORMeISOLATED FORM",
   "dWITH ATTACHED BOTTOM RIGHT KASRAiAND DOT ABOVEjLEFT RINGfFATHAfKASRAfLEFT HAMZAgROUND DOT",
   "fRIGHT HAMZAgROUND DOTfROUND DOT ABOVEhBELOWfTOP RIGHT FATHAiAND DOT ABOVEjLEFT RINGeDOT ABOVE",
   "eEXTENDED ARABIC-INDIC DIGIT THREE ABOVEhTWO ABOVEeHAMZA ABOVEgFINAL FORMgISOLATED FORMfBELOW",
   "gFINAL FORMgISOLATED FORMeLEFT MIDDLE STROKEeMADDA ABOVEgFINAL FORMgISOLATED FORM",
   "eRIGHT MIDDLE STROKEhAND DOT ABOVEiLEFT RINGeWAVY HAMZA ABOVEgBELOWcBEEHdFINAL FORM",
   "dINITIAL FORMdISOLATED FORMdMEDIAL FORMcBEHdFINAL FORMdINITIAL FORMdISOLATED FORMdMEDIAL FORM",
   "dWITH DOT BELOW AND THREE DOTS ABOVEeHAMZA ABOVEeINVERTED SMALL V BELOWeSMALL MEEM ABOVEfV",
   "gBELOWeTHREE DOTS HORIZONTALLY BELOWgPOINTING UPWARDS BELOWjAND TWO DOTS ABOVE",
   "eTWO DOTS BELOW AND DOT ABOVEcBEHEHdFINAL FORMdINITIAL FORMdISOLATED FORMdMEDIAL FORMcDAD",
   "dFINAL FORMdINITIAL FORMdISOLATED FORMdMEDIAL FORMdWITH DOT BELOWcDAHALdFINAL FORM",
   "dISOLATED FORMcDALdFINAL FORMdISOLATED FORMdWITH DOT BELOWgAND SMALL TAHeFOUR DOTS ABOVE",
   "eINVERTED SMALL V BELOWfVeRINGeTHREE DOTS ABOVE DOWNWARDSgBELOW",
   "eTWO DOTS VERTICALLY BELOW AND SMALL TAHcDDAHALdFINAL FORMdISOLATED FORMcDDALdFINAL FORM",
   "dISOLATED FORMcDOTLESS BEHdFEHdQAFcDULdFINAL FORMdISOLATED FORMcDYEHdFINAL FORMdINITIAL FORM",
   "dISOLATED FORMdMEDIAL FORMcEdFINAL FORMdINITIAL FORMdISOLATED FORMdMEDIAL FORMcFARSI YEH",
   "eFINAL FORMeINITIAL FORMeISOLATED FORMeMEDIAL FORMeWITH EXTENDED ARABIC-INDIC DIGIT FOUR BELOW",
   "iTHREE ABOVEiTWO ABOVEfINVERTED VfTHREE DOTS ABOVEfTWO DOTS ABOVEcFEHdFINAL FORMdINITIAL FORM",
   "dISOLATED FORMdMEDIAL FORMdWITH DOT BELOWgAND THREE DOTS ABOVEfMOVED BELOWeTHREE DOTS BELOW",
   "gPOINTING UPWARDS BELOWeTWO DOTS BELOWcGAFdFINAL FORMdINITIAL FORMdISOLATED FORMdMEDIAL FORM",
   "dWITH INVERTED STROKEeRINGeTHREE DOTS ABOVEeTWO DOTS BELOWcGHAINdFINAL FORMdINITIAL FORM",
   "dISOLATED FORMdMEDIAL FORMdWITH DOT BELOWeTHREE DOTS ABOVEcGRAFcGUEHdFINAL FORMdINITIAL FORM",
   "dISOLATED FORMdMEDIAL FORMcHAHdFINAL FORMdINITIAL FORMdISOLATED FORMdMEDIAL FORM",
   "dWITH EXTENDED ARABIC-INDIC DIGIT FOUR BELOWeHAMZA ABOVEeINVERTED SMALL V BELOW",
   "eSMALL ARABIC LETTER TAH ABOVEiAND TWO DOTSiBELOWeTHREE DOTS ABOVEgPOINTING UPWARDS BELOW",
   "eTWO DOTS ABOVEgVERTICAL ABOVEcHAMZAdISOLATED FORMcHEHdDOACHASHMEEeFINAL FORMeINITIAL FORM",
   "eISOLATED FORMeMEDIAL FORMdFINAL FORMdGOALeFINAL FORMeINITIAL FORMeISOLATED FORMeMEDIAL FORM",
   "eWITH HAMZA ABOVEdINITIAL FORMdISOLATED FORMdMEDIAL FORMdWITH INVERTED VeYEH ABOVEgFINAL FORM",
   "gISOLATED FORMcHIGH HAMZAeALEFeWAWeYEHcJEEMdFINAL FORMdINITIAL FORMdISOLATED FORMdMEDIAL FORM",
   "dWITH THREE DOTS ABOVEgBELOWeTWO DOTS ABOVEcJEHdFINAL FORMdISOLATED FORMcKAFdFINAL FORM",
   "dINITIAL FORMdISOLATED FORMdMEDIAL FORMdWITH DOT ABOVEfBELOWeRINGeTHREE DOTS BELOW",
   "eTWO DOTS ABOVEcKASHMIRI YEHcKEHEHdFINAL FORMdINITIAL FORMdISOLATED FORMdMEDIAL FORM",
   "dWITH DOT ABOVEeSMALL VeTHREE DOTS ABOVEgBELOWgPOINTING UPWARDS BELOWeTWO DOTS ABOVE",
   "gVERTICALLY BELOWcKHAHdFINAL FORMdINITIAL FORMdISOLATED FORMdMEDIAL FORMcKIRGHIZ OEeFINAL FORM",
   "eISOLATED FORMdYUeFINAL FORMeISOLATED FORMcLAMdFINAL FORMdINITIAL FORMdISOLATED FORM",
   "dMEDIAL FORMdWITH BAReDOT ABOVEeDOUBLE BAReSMALL ARABIC LETTER TAH ABOVEfVeTHREE DOTS ABOVE",
   "gBELOWcLOW ALEFcMARKcMEEMdFINAL FORMdINITIAL FORMdISOLATED FORMdMEDIAL FORMdWITH DOT ABOVE",
   "fBELOWeTHREE DOTS ABOVEcNGdFINAL FORMdINITIAL FORMdISOLATED FORMdMEDIAL FORMcNGOEHdFINAL FORM",
   "dINITIAL FORMdISOLATED FORMdMEDIAL FORMcNOONdFINAL FORMdGHUNNAeFINAL FORMeISOLATED FORM",
   "dINITIAL FORMdISOLATED FORMdMEDIAL FORMdWITH DOT BELOWeINVERTED SMALL VeRINGeSMALL TAHfV",
   "eTHREE DOTS ABOVEeTWO DOTS BELOWcNYEHdFINAL FORMdINITIAL FORMdISOLATED FORMdMEDIAL FORMcOE",
   "dFINAL FORMdISOLATED FORMcPEHdFINAL FORMdINITIAL FORMdISOLATED FORMdMEDIAL FORM",
   "dWITH SMALL MEEM ABOVEfVcPEHEHdFINAL FORMdINITIAL FORMdISOLATED FORMdMEDIAL FORMcQAF",
   "dFINAL FORMdINITIAL FORMdISOLATED FORMdMEDIAL FORMdWITH DOT ABOVEfBELOWgAND NO DOTS ABOVE",
   "eTHREE DOTS ABOVEcREHdFINAL FORMdISOLATED FORMdWITH DOT BELOWgAND DOT ABOVEeFOUR DOTS ABOVE",
   "eHAMZA ABOVEeINVERTED VeLOOPeRINGeSMALL ARABIC LETTER TAH AND TWO DOTSfNOON ABOVEfVgBELOW",
   "eSTROKEeTWO DOTS ABOVEgVERTICALLY ABOVEcRNOONdFINAL FORMdINITIAL FORMdISOLATED FORM",
   "dMEDIAL FORMcROHINGYA YEHcRREHdFINAL FORMdISOLATED FORMcSADdFINAL FORMdINITIAL FORM",
   "dISOLATED FORMdMEDIAL FORMdWITH THREE DOTS ABOVEgBELOWeTWO DOTS BELOWcSEENdFINAL FORM",
   "dINITIAL FORMdISOLATED FORMdMEDIAL FORMdWITH DOT BELOW AND DOT ABOVE",
   "eEXTENDED ARABIC-INDIC DIGIT FOUR ABOVEeFOUR DOTS ABOVEeINVERTED V",
   "eSMALL ARABIC LETTER TAH AND TWO DOTSeTHREE DOTS BELOWhAND THREE DOTS ABOVE",
   "eTWO DOTS VERTICALLY ABOVEcSHEENdFINAL FORMdINITIAL FORMdISOLATED FORMdMEDIAL FORM",
   "dWITH DOT BELOWcSTRAIGHT WAWcSUPERSCRIPT ALEFcSWASH KAFcTAHdFINAL FORMdINITIAL FORM",
   "dISOLATED FORMdMEDIAL FORMdWITH DOT BELOWeTHREE DOTS ABOVEgBELOWeTWO DOTS ABOVEcTCHEH",
   "dFINAL FORMdINITIAL FORMdISOLATED FORMdMEDIAL FORMdWITH DOT ABOVEeSMALL VcTCHEHEHdFINAL FORM",
   "dINITIAL FORMdISOLATED FORMdMEDIAL FORMcTEHdFINAL FORMdINITIAL FORMdISOLATED FORMdMARBUTA",
   "eFINAL FORMeGOALeISOLATED FORMdMEDIAL FORMdWITH RINGeSMALL TEH ABOVEfV",
   "eTHREE DOTS ABOVE DOWNWARDScTEHEHdFINAL FORMdINITIAL FORMdISOLATED FORMdMEDIAL FORMcTHAL",
   "dFINAL FORMdISOLATED FORMcTHEHdFINAL FORMdINITIAL FORMdISOLATED FORMdMEDIAL FORMcTHIN YEHcTTEH",
   "dFINAL FORMdINITIAL FORMdISOLATED FORMdMEDIAL FORMdWITH SMALL VcTTEHEHdFINAL FORMdINITIAL FORM",
   "dISOLATED FORMdMEDIAL FORMcUdFINAL FORMdISOLATED FORMdWITH HAMZA ABOVEgISOLATED FORM",
   "cUIGHUR KAZAKH KIRGHIZ ALEF MAKSURA INITIAL FORMhMEDIAL FORMcVEdFINAL FORMdISOLATED FORMcVEH",
   "dFINAL FORMdINITIAL FORMdISOLATED FORMdMEDIAL FORMcWAWdFINAL FORMdISOLATED FORMdWITH DOT ABOVE",
   "fWITHINeEXTENDED ARABIC-INDIC DIGIT THREE ABOVEhTWO ABOVEeHAMZA ABOVEgFINAL FORMgISOLATED FORM",
   "eRINGeTWO DOTS ABOVEcYEHdBARREEeFINAL FORMeISOLATED FORM",
   "eWITH EXTENDED ARABIC-INDIC DIGIT THREE ABOVEiTWO ABOVEfHAMZA ABOVEhFINAL FORMhISOLATED FORM",
   "dFINAL FORMdINITIAL FORMdISOLATED FORMdMEDIAL FORMdWITH HAMZA ABOVEgFINAL FORMgINITIAL FORM",
   "gISOLATED FORMgMEDIAL FORMeSMALL VeTAILeTHREE DOTS BELOWeTWO DOTS BELOW AND DOT ABOVE",
   "iHAMZA ABOVEiSMALL NOON ABOVEcYUdFINAL FORMdISOLATED FORMcZAHdFINAL FORMdINITIAL FORM",
   "dISOLATED FORMdMEDIAL FORMcZAINdFINAL FORMdISOLATED FORMdWITH INVERTED V ABOVE",
   "bLIGATURE AIN WITH ALEF MAKSURA FINAL FORMgISOLATED FORMeJEEM INITIAL FORMfISOLATED FORM",
   "fWITH MEEM FINAL FORMhINITIAL FORMeMEEM INITIAL FORMfISOLATED FORM",
   "fWITH ALEF MAKSURA FINAL FORMgMEEM FINAL FORMhINITIAL FORMgYEH FINAL FORMeYEH FINAL FORM",
   "fISOLATED FORMcAKBAR ISOLATED FORMcALAYHAA AS-SALAAMcALAYHE ISOLATED FORMcALAYHI AS-SALAAM",
   "dAS-SALAATU WAS-SALAAMcALAYHIM AS-SALAAMcALAYHIMAA AS-SALAAM",
   "cALEF MAKSURA WITH SUPERSCRIPT ALEF FINAL FORMhISOLATED FORMdWITH FATHATAN FINAL FORM",
   "fISOLATED FORMcALLAH ISOLATED FORMcAZZA WA JALLcBEH WITH ALEF MAKSURA FINAL FORMgISOLATED FORM",
   "eHAH INITIAL FORMfISOLATED FORMfWITH YEH FINAL FORMeHEH INITIAL FORMfMEDIAL FORM",
   "eJEEM INITIAL FORMfISOLATED FORMeKHAH INITIAL FORMfISOLATED FORMfWITH YEH FINAL FORM",
   "eMEEM FINAL FORMfINITIAL FORMfISOLATED FORMfMEDIAL FORMeNOON FINAL FORMeREH FINAL FORM",
   "eYEH FINAL FORMfISOLATED FORMeZAIN FINAL FORMcBISMILLAH AR-RAHMAN AR-RAHEEM",
   "cDAD WITH ALEF MAKSURA FINAL FORMgISOLATED FORMeHAH INITIAL FORMfISOLATED FORM",
   "fWITH ALEF MAKSURA FINAL FORMgYEH FINAL FORMeJEEM INITIAL FORMfISOLATED FORMeKHAH INITIAL FORM",
   "fISOLATED FORMfWITH MEEM FINAL FORMhINITIAL FORMeMEEM INITIAL FORMfISOLATED FORM",
   "eREH FINAL FORMfISOLATED FORMeYEH FINAL FORMfISOLATED FORMcFEH WITH ALEF MAKSURA FINAL FORM",
   "gISOLATED FORMeHAH INITIAL FORMfISOLATED FORMeJEEM INITIAL FORMfISOLATED FORM",
   "eKHAH INITIAL FORMfISOLATED FORMfWITH MEEM FINAL FORMhINITIAL FORMeMEEM INITIAL FORM",
   "fISOLATED FORMfWITH YEH FINAL FORMeYEH FINAL FORMfISOLATED FORM",
   "cGHAIN WITH ALEF MAKSURA FINAL FORMgISOLATED FORMeJEEM INITIAL FORMfISOLATED FORM",
   "eMEEM INITIAL FORMfISOLATED FORMfWITH ALEF MAKSURA FINAL FORMgMEEM FINAL FORMgYEH FINAL FORM",
   "eYEH FINAL FORMfISOLATED FORMcHAH WITH ALEF MAKSURA FINAL FORMgISOLATED FORMeJEEM INITIAL FORM",
   "fISOLATED FORMfWITH YEH FINAL FORMeMEEM INITIAL FORMfISOLATED FORM",
   "fWITH ALEF MAKSURA FINAL FORMgYEH FINAL FORMeYEH FINAL FORMfISOLATED FORM",
   "cHEH WITH ALEF MAKSURA ISOLATED FORMeJEEM INITIAL FORMfISOLATED FORMeMEEM INITIAL FORM",
   "fISOLATED FORMfWITH JEEM INITIAL FORMgMEEM INITIAL FORMeSUPERSCRIPT ALEF INITIAL FORM",
   "eYEH ISOLATED FORMcJALLAJALALOUHOUcJEEM WITH ALEF MAKSURA FINAL FORMgISOLATED FORM",
   "eHAH INITIAL FORMfISOLATED FORMfWITH ALEF MAKSURA FINAL FORMgYEH FINAL FORMeMEEM INITIAL FORM",
   "fISOLATED FORMfWITH ALEF MAKSURA FINAL FORMgHAH FINAL FORMhINITIAL FORMgYEH FINAL FORM",
   "eYEH FINAL FORMfISOLATED FORMcKAF WITH ALEF FINAL FORMfISOLATED FORMfMAKSURA FINAL FORM",
   "gISOLATED FORMeHAH INITIAL FORMfISOLATED FORMeJEEM INITIAL FORMfISOLATED FORM",
   "eKHAH INITIAL FORMfISOLATED FORMeLAM FINAL FORMfINITIAL FORMfISOLATED FORMfMEDIAL FORM",
   "eMEEM FINAL FORMfINITIAL FORMfISOLATED FORMfMEDIAL FORMfWITH MEEM FINAL FORMhINITIAL FORM",
   "gYEH FINAL FORMeYEH FINAL FORMfISOLATED FORMcKHAH WITH ALEF MAKSURA FINAL FORMgISOLATED FORM",
   "eHAH ISOLATED FORMeJEEM INITIAL FORMfISOLATED FORMeMEEM INITIAL FORMfISOLATED FORM",
   "eYEH FINAL FORMfISOLATED FORMcLAM WITH ALEF FINAL FORMfISOLATED FORMfMAKSURA FINAL FORM",
   "gISOLATED FORMfWITH HAMZA ABOVE FINAL FORMiISOLATED FORMhBELOW FINAL FORMiISOLATED FORM",
   "gMADDA ABOVE FINAL FORMiISOLATED FORMeHAH INITIAL FORMfISOLATED FORM",
   "fWITH ALEF MAKSURA FINAL FORMgMEEM FINAL FORMhINITIAL FORMgYEH FINAL FORMeHEH INITIAL FORM",
   "eJEEM INITIAL FORMfISOLATED FORMfWITH JEEM FINAL FORMhINITIAL FORMgMEEM FINAL FORM",
   "hINITIAL FORMgYEH FINAL FORMeKHAH INITIAL FORMfISOLATED FORMfWITH MEEM FINAL FORMhINITIAL FORM",
   "eMEEM FINAL FORMfINITIAL FORMfISOLATED FORMfMEDIAL FORMfWITH HAH FINAL FORMhINITIAL FORM",
   "gYEH FINAL FORMeYEH FINAL FORMfISOLATED FORMcMEEM WITH ALEF FINAL FORMfMAKSURA ISOLATED FORM",
   "eHAH INITIAL FORMfISOLATED FORMfWITH JEEM INITIAL FORMgMEEM INITIAL FORMgYEH FINAL FORM",
   "eJEEM INITIAL FORMfISOLATED FORMfWITH HAH INITIAL FORMgKHAH INITIAL FORMgMEEM INITIAL FORM",
   "gYEH FINAL FORMeKHAH INITIAL FORMfISOLATED FORMfWITH JEEM INITIAL FORMgMEEM INITIAL FORM",
   "gYEH FINAL FORMeMEEM FINAL FORMfINITIAL FORMfISOLATED FORMfWITH YEH FINAL FORM",
   "eYEH ISOLATED FORMcMOHAMMAD ISOLATED FORMcNOON WITH ALEF MAKSURA FINAL FORMgISOLATED FORM",
   "eHAH INITIAL FORMfISOLATED FORMfWITH ALEF MAKSURA FINAL FORMgMEEM INITIAL FORMgYEH FINAL FORM",
   "eHEH INITIAL FORMfMEDIAL FORMeJEEM INITIAL FORMfISOLATED FORMfWITH ALEF MAKSURA FINAL FORM",
   "gHAH FINAL FORMhINITIAL FORMgMEEM FINAL FORMhINITIAL FORMgYEH FINAL FORMeKHAH INITIAL FORM",
   "fISOLATED FORMeMEEM FINAL FORMfINITIAL FORMfISOLATED FORMfMEDIAL FORM",
   "fWITH ALEF MAKSURA FINAL FORMgYEH FINAL FORMeNOON FINAL FORMeREH FINAL FORMeYEH FINAL FORM",
   "fISOLATED FORMeZAIN FINAL FORMcQAF WITH ALEF MAKSURA FINAL FORMgISOLATED FORMeHAH INITIAL FORM",
   "fISOLATED FORMeMEEM INITIAL FORMfISOLATED FORMfWITH HAH FINAL FORMhINITIAL FORM",
   "gMEEM FINAL FORMgYEH FINAL FORMeYEH FINAL FORMfISOLATED FORM",
   "cQALA USED AS KORANIC STOP SIGN ISOLATED FORMcQUDDISA SIRRAHcRADI ALLAAHU ANHeANHAAeANHUM",
   "eANHUMAAeANHUNNAcRAHIMAHU ALLAAHcRAHIMAHUM ALLAAHcRASOUL ISOLATED FORM",
   "cREH WITH SUPERSCRIPT ALEF ISOLATED FORMcSAD WITH ALEF MAKSURA FINAL FORMgISOLATED FORM",
   "eHAH INITIAL FORMfISOLATED FORMfWITH HAH FINAL FORMhINITIAL FORMgYEH FINAL FORM",
   "eKHAH INITIAL FORMeMEEM INITIAL FORMfISOLATED FORMfWITH MEEM FINAL FORMhINITIAL FORM",
   "eREH FINAL FORMfISOLATED FORMeYEH FINAL FORMfISOLATED FORMcSALAAMUHU ALAYNAA",
   "cSALAM ISOLATED FORMcSALLA ISOLATED FORMdUSED AS KORANIC STOP SIGN ISOLATED FORM",
   "cSALLALLAAHU ALAYHI WA-AALIHcSALLALLAHOU ALAYHE WASALLAMcSALLALLAHU ALAYHI WAAALIHEE WA-SALLAM",
   "cSEEN WITH ALEF MAKSURA FINAL FORMgISOLATED FORMeHAH INITIAL FORMfISOLATED FORMfMEDIAL FORM",
   "fWITH JEEM INITIAL FORMeHEH INITIAL FORMfMEDIAL FORMeJEEM INITIAL FORMfISOLATED FORM",
   "fMEDIAL FORMfWITH ALEF MAKSURA FINAL FORMgHAH INITIAL FORMeKHAH INITIAL FORMfISOLATED FORM",
   "fMEDIAL FORMfWITH ALEF MAKSURA FINAL FORMgYEH FINAL FORMeMEEM INITIAL FORMfISOLATED FORM",
   "fMEDIAL FORMfWITH HAH FINAL FORMhINITIAL FORMgJEEM INITIAL FORMgMEEM FINAL FORMhINITIAL FORM",
   "eREH FINAL FORMfISOLATED FORMeYEH FINAL FORMfISOLATED FORMcSHADDA WITH DAMMA ISOLATED FORM",
   "fMEDIAL FORMeDAMMATAN ISOLATED FORMeFATHA ISOLATED FORMfMEDIAL FORMeKASRA ISOLATED FORM",
   "fMEDIAL FORMeKASRATAN ISOLATED FORMeSUPERSCRIPT ALEF ISOLATED FORM",
   "cSHEEN WITH ALEF MAKSURA FINAL FORMgISOLATED FORMeHAH FINAL FORMfINITIAL FORMfISOLATED FORM",
   "fMEDIAL FORMfWITH MEEM FINAL FORMhINITIAL FORMgYEH FINAL FORMeHEH INITIAL FORMfMEDIAL FORM",
   "eJEEM FINAL FORMfINITIAL FORMfISOLATED FORMfMEDIAL FORMfWITH YEH FINAL FORMeKHAH FINAL FORM",
   "fINITIAL FORMfISOLATED FORMfMEDIAL FORMeMEEM FINAL FORMfINITIAL FORMfISOLATED FORMfMEDIAL FORM",
   "fWITH KHAH FINAL FORMhINITIAL FORMgMEEM FINAL FORMhINITIAL FORMeREH FINAL FORMfISOLATED FORM",
   "eYEH FINAL FORMfISOLATED FORMcSUBHAANAHU WA TAAALAAcTABAARAKA WA-TAAALAA",
   "cTAH WITH ALEF MAKSURA FINAL FORMgISOLATED FORMeHAH INITIAL FORMfISOLATED FORM",
   "eMEEM INITIAL FORMfISOLATED FORMfMEDIAL FORMfWITH HAH FINAL FORMhINITIAL FORM",
   "gMEEM INITIAL FORMgYEH FINAL FORMeYEH FINAL FORMfISOLATED FORM",
   "cTEH WITH ALEF MAKSURA FINAL FORMgISOLATED FORMeHAH INITIAL FORMfISOLATED FORM",
   "fWITH JEEM FINAL FORMhINITIAL FORMgMEEM INITIAL FORMeHEH INITIAL FORMfMEDIAL FORM",
   "eJEEM INITIAL FORMfISOLATED FORMfWITH ALEF MAKSURA FINAL FORMgMEEM INITIAL FORMgYEH FINAL FORM",
   "eKHAH INITIAL FORMfISOLATED FORMfWITH ALEF MAKSURA FINAL FORMgMEEM INITIAL FORMgYEH FINAL FORM",
   "eMEEM FINAL FORMfINITIAL FORMfISOLATED FORMfMEDIAL FORMfWITH ALEF MAKSURA FINAL FORM",
   "gHAH INITIAL FORMgJEEM INITIAL FORMgKHAH INITIAL FORMgYEH FINAL FORMeNOON FINAL FORM",
   "eREH FINAL FORMeYEH FINAL FORMfISOLATED FORMeZAIN FINAL FORM",
   "cTHAL WITH SUPERSCRIPT ALEF ISOLATED FORMcTHEH WITH ALEF MAKSURA FINAL FORMgISOLATED FORM",
   "eHEH MEDIAL FORMeJEEM ISOLATED FORMeMEEM FINAL FORMfINITIAL FORMfISOLATED FORMfMEDIAL FORM",
   "eNOON FINAL FORMeREH FINAL FORMeYEH FINAL FORMfISOLATED FORMeZAIN FINAL FORM",
   "cUIGHUR KIRGHIZ YEH WITH HAMZA ABOVE WITH ALEF MAKSURA FINAL FORMlINITIAL FORMlISOLATED FORM",
   "cWASALLAM ISOLATED FORMcYEH WITH ALEF MAKSURA FINAL FORMgISOLATED FORMeHAH INITIAL FORM",
   "fISOLATED FORMfWITH YEH FINAL FORMeHAMZA ABOVE WITH AE FINAL FORMiISOLATED FORM",
   "hALEF FINAL FORMiISOLATED FORMiMAKSURA FINAL FORMjISOLATED FORMhE FINAL FORMiINITIAL FORM",
   "iISOLATED FORMhHAH INITIAL FORMiISOLATED FORMhHEH INITIAL FORMiMEDIAL FORMhJEEM INITIAL FORM",
   "iISOLATED FORMhKHAH INITIAL FORMhMEEM FINAL FORMiINITIAL FORMiISOLATED FORMiMEDIAL FORM",
   "hNOON FINAL FORMhOE FINAL FORMiISOLATED FORMhREH FINAL FORMhU FINAL FORMiISOLATED FORM",
   "hWAW FINAL FORMiISOLATED FORMhYEH FINAL FORMiISOLATED FORMhYU FINAL FORMiISOLATED FORM",
   "hZAIN FINAL FORMeHEH INITIAL FORMfMEDIAL FORMeJEEM INITIAL FORMfISOLATED FORM",
   "fWITH YEH FINAL FORMeKHAH INITIAL FORMfISOLATED FORMeMEEM FINAL FORMfINITIAL FORM",
   "fISOLATED FORMfMEDIAL FORMfWITH MEEM FINAL FORMhINITIAL FORMgYEH FINAL FORMeNOON FINAL FORM",
   "eREH FINAL FORMeYEH FINAL FORMfISOLATED FORMeZAIN FINAL FORMcZAH WITH MEEM INITIAL FORM",
   "fISOLATED FORMfMEDIAL FORMbMADDA WAAJIBbMADDAH ABOVEbMARK NOON GHUNNAcSIDEWAYS NOON GHUNNA",
   "bMATHEMATICAL AINcALEFcBEHcDADcDALcDOTLESS BEHdFEHdNOONdQAFcDOUBLE-STRUCK AINdBEHdDADdDALdFEH",
   "dGHAINdHAHdJEEMdKHAHdLAMdMEEMdNOONdQAFdREHdSADdSEENdSHEENdTAHdTEHdTHALdTHEHdWAWdYEHdZAHdZAIN",
   "cFEHcGHAINcHAHcINITIAL AINdBEHdDADdFEHdGHAINdHAHdHEHdJEEMdKAFdKHAHdLAMdMEEMdNOONdQAFdSADdSEEN",
   "dSHEENdTEHdTHEHdYEHcJEEMcKAFcKHAHcLAMcLOOPED AINdALEFdBEHdDADdDALdFEHdGHAINdHAHdHEHdJEEMdKHAH",
   "dLAMdMEEMdNOONdQAFdREHdSADdSEENdSHEENdTAHdTEHdTHALdTHEHdWAWdYEHdZAHdZAINcMEEMcNOON",
   "cOPERATOR HAH WITH DALdMEEM WITH HAH WITH TATWEELcQAFcREHcSADcSEENcSHEENcSTRETCHED AINdBEHdDAD",
   "dDOTLESS BEHeFEHdFEHdGHAINdHAHdHEHdJEEMdKAFdKHAHdMEEMdNOONdQAFdSADdSEENdSHEENdTAHdTEHdTHEHdYEH",
   "dZAHcTAHcTAILED AINdDADdDOTLESS NOONeQAFdGHAINdHAHdJEEMdKHAHdLAMdNOONdQAFdSADdSEENdSHEENdYEH",
   "cTEHcTHALcTHEHcWAWcYEHcZAHcZAINbNUMBER MARK ABOVEcSIGNbOPEN DAMMATANcFATHATANcKASRATAN",
   "bPERCENT SIGNbPIASTRE MARK ABOVEbPLACE OF SAJDAHbPOETIC VERSE SIGNbPOUND MARK ABOVE",
   "bQUESTION MARKbRAISED ROUND DOTbRAYbREVERSED DAMMAbRIGHT ARROWHEAD ABOVEeWITH DOTdBELOW",
   "bROUNDED HIGH STOP WITH FILLED CENTREbSEMICOLONbSHADDAcISOLATED FORMcMEDIAL FORM",
   "bSIGN ALAYHE ASSALLAMcMISRAcRADI ALLAHOU ANHUcRAHMATULLAH ALAYHEcSAFHA",
   "cSALLALLAHOU ALAYHE WASSALLAMcSAMVATcSANAHcSINDHI AMPERSANDdPOSTPOSITION MENcTAKHALLUS",
   "bSMALL DAMMAcFARSI YEHcFATHAcHIGH AINdDOTLESS HEAD OF KHAHdFARSI YEHdFOOTNOTE MARKERdJEEM",
   "dLAM ALEFdLIGATURE ALEF WITH LAM WITH YEHeQAF WITH LAM WITH ALEF MAKSURA",
   "eSAD WITH LAM WITH ALEF MAKSURAdMADDAdMEEM INITIAL FORMeISOLATED FORMdNOONeWITH KASRAdQAF",
   "dROUNDED ZEROdSADdSEENdSIGN SAFHAdTAHdTHREE DOTSdUPRIGHT RECTANGULAR ZEROdWAWdWORD AL-JUZ",
   "eAN-NISFeAR-RUBeAS-SAJDAeATH-THALATHAeQIFeSAHeSAKTAeWAQFAdYEHeBARREE WITH TWO DOTS BELOWdZAH",
   "dZAINcKASRAcLOW MEEMdNOON WITH KASRAdSEENdWAWdWORD IMAALAeISHMAAMeTASHEELcWAWcYEH",
   "bSTART OF RUB EL HIZBbSUBSCRIPT ALEFbSUKUNcBELOWcISOLATED FORMcMEDIAL FORM",
   "bSUPERSCRIPT ALEF MOKHASSASbSYMBOL DOT ABOVEdBELOWcDOUBLE VERTICAL BAR BELOWcFOUR DOTS ABOVE",
   "eBELOWcRINGcSMALL TAH ABOVEeBELOWcTHREE DOTS ABOVEeBELOWePOINTING DOWNWARDS ABOVEgBELOW",
   "cTWO DOTS ABOVEeBELOWeVERTICALLY ABOVEfBELOWcWASLA ABOVEbTAIL FRAGMENTbTATWEEL",
   "cWITH FATHATAN ABOVEdOVERSTRUCK HAMZAeWAWdTWO DOTS BELOWbTHOUSANDS SEPARATORbTONE LOOP ABOVE",
   "dBELOWcONE DOT ABOVEeBELOWcTWO DOTS ABOVEeBELOWbTRIPLE DOT PUNCTUATION MARKbTURNED DAMMA BELOW",
   "bVERTICAL TAILbVOWEL SIGN DOT BELOWdINVERTED SMALL V ABOVEdSMALL V ABOVEbWAVY HAMZA BELOW",
   "bZWARAKAYaARABIC-INDIC CUBE ROOTbDIGIT EIGHTcFIVEcFOURcNINEcONEcSEVENcSIXcTHREEcTWOcZERO",
   "bFOURTH ROOTbPER MILLE SIGNcTEN THOUSAND SIGNaARCaARIESaARMENIAN ABBREVIATION MARKbAPOSTROPHE",
   "bCAPITAL LETTER AYBdBENdCAdCHAdCHEHdCOdDAdECHdEHdETdFEHdGHADdGIMdHOdINIdJAdJHEHdKEHdKENdLIWN",
   "dMENdNOWdOHdPEHdPIWRdRAdREHdSEHdSHAdTIWNdTOdVEWdVOdXEHdYIdYIWNdZAdZHEbCOMMAbDRAM SIGN",
   "bEMPHASIS MARKbEXCLAMATION MARKbFULL STOPbHYPHENbMODIFIER LETTER LEFT HALF RINGbQUESTION MARK",
   "bSMALL LETTER AYBdBENdCAdCHAdCHEHdCOdDAdECHdEHdETdFEHdGHADdGIMdHOdINIdJAdJHEHdKEHdKENdLIWNdMEN",
   "dNOWdOHdPEHdPIWRdRAdREHdSEHdSHAdTIWNdTOdTURNED AYBdVEWdVOdXEHdYIeWITH STROKEdYIWNdZAdZHE",
   "cLIGATURE ECH YIWNdMEN ECHeINIeNOWeXEHdVEW NOWaARROW POINTING DOWNWARDS THEN CURVING LEFTWARDS",
   "fRIGHTWARDScRIGHTWARDS THEN CURVING DOWNWARDSfSOUTH WESTfUPWARDScUPWARDS THEN NORTH WEST",
   "aARROWHEAD-SHAPED POINTERaARTICULATED LORRYaARTIST PALETTEaASCENDING NODEaASCIA SYMBOL",
   "aASSERTIONaASTERISKbOPERATORaASTERISMaASTONISHED FACEaASTRAEAaASTRONOMICAL SYMBOL FOR URANUS",
   "aASYMPTOTICALLY EQUAL TOaATHLETIC SHOEaATOM SYMBOLaAUBERGINEaAUSTRAL SIGNaAUTO RICKSHAW",
   "aAUTOMATED TELLER MACHINEaAUTOMOBILEaAVESTAN ABBREVIATION MARKbLETTER AcAAcAANcAAOcAEcAEEcAN",
   "cAOcBEcBHEcCEcDEcDHEcEcEEcFEcGEcGGEcGHEcHEcHMEcIcIIcJEcKEcLEcMEcNEcNGEcNGVEcNGYEcNNEcNYEcOcOO",
   "cPEcREcSEcSHEcSHYEcSSHEcTEcTHEcTTEcUcUUcVEcXEcXVEcXYEcYEcYYEcZEcZHEaAVOCADOaAXEaBABYbANGEL",
   "bBOTTLEbCHICKbSYMBOLaBACK OF ENVELOPEbWITH LEFTWARDS ARROW ABOVE",
   "aBACK-TILTED SHADOWED WHITE RIGHTWARDS ARROWaBACKSLANTED SOUTH ARROW WITH HOOKED TAIL",
   "eHORIZONTAL TAILaBACKSPACEaBACONaBACTRIAN CAMELaBADGERaBADMINTON RACQUET AND SHUTTLECOCKaBAGEL",
   "aBAGGAGE CLAIMaBAGUETTE BREADaBALINESE ADEG ADEGbCARIK PAMUNGKAHcPARERENcSIKIbDIGIT EIGHTcFIVE",
   "cFOURcNINEcONEcSEVENcSIXcTHREEcTWOcZERObLETTER AIKARAcAKARAdTEDUNGcARCHAIC JNYAcASYURA SASAK",
   "cBAdKEMBANGcCAdLACAcDAdMADUdMURDA ALPAPRANAeMAHAPRANAcEF SASAKcEKARAcGAdGORAcHAcIKARAdTEDUNG",
   "cJAdJERAcKAdMAHAPRANAcKAF SASAKcKHOT SASAKcLAdLENGAeTEDUNGcMAcNAdRAMBATcNGAcNYAcOKARAdTEDUNG",
   "cPAdKAPALcRAdREPAeTEDUNGcSAdSAGAdSAPAcTAdLATIKdMURDA MAHAPRANAdTAWAcTZIR SASAKcUKARAdTEDUNG",
   "cVE SASAKcWAcYAcZAL SASAKbMUSICAL SYMBOL COMBINING BENDEeENDEPeGONGeJEGOGANeKEMPLI",
   "fWITH JEGOGANeKEMPULfWITH JEGOGANeTEGEHdDAENGdDAINGdDANGeGEDEeSURANGdDENGdDEUNGdDINGdDONGdDUNG",
   "dLEFT-HAND CLOSED PLAKfPLUKeOPEN PANGfPINGfPUNGdRIGHT-HAND CLOSED TAKfTUKeOPEN DAGfDUGbPAMADA",
   "cLANTANGbPAMENENGbPANTIcLANTANGbSIGN BISAHcCECEKcREREKANcSURANGcULU CANDRAdRICEM",
   "bVOWEL SIGN LA LENGAfTEDUNGdPEPETeTEDUNGdRA REPAfTEDUNGdSUKUeILUTdTALINGeREPAfTEDUNGeTEDUNG",
   "dTEDUNGdULUeSARIbWINDUaBALL OF YARNaBALLET SHOESaBALLOONaBALLOON-SPOKED ASTERISK",
   "aBALLOT BOLD SCRIPT XbBOXcWITH BALLOTdBOLD CHECKeSCRIPT XdCHECKdLIGHT XdSCRIPT XdXbSCRIPT XbX",
   "aBAMUM COLONbCOMBINING MARK KOQNDONdTUKWENTISbCOMMAbFULL STOPbLETTER AcEEcFAAMAEcFEEcFOMcFUcI",
   "cKAcKENcKETcKEUXcKIcKOcKOGHOMcKOVUUcKPAcKUcKYEEcLAcLEEEEcLIcLOQcLUcMcMAcMBAAcMBENcMEEEEcMENcMI",
   "cMOcMUcNAcNDAAcNGAcNGGAcNGKWAENcNIcNJAEMcNJEEcNJUAEcNSHAcNTEEcNTUUcNUcNUAEcNYIcOcPAcPEEcPEUX",
   "cPHASE-A FIRIdGBIEE FONdGHEUAEGHEUAEdGHEUAERAEdKAFAdKAQdKETdKEUKEUTNDAdKPOQdKUOQdLAPAQdLET KUT",
   "dLOMMAEdLUdLUAEPdMAEKEUPdMAEMdMAEMBGBIEEdMAEMKPENdMAEMVEUXdMAENYIdMAESIdMANSUAEdMAP PIEET",
   "dMBANYIdMBAQdMEUNJOMNDEUQdMGBASAdMON NGGEUAETdMOOMEUTdMOOMPUQdMVEUAENGAMdNAA MFONdNAQ",
   "dNDA LEERAEWAdNDAANGGEUAETdNENdNGANGUdNGGENdNGKUE MFONdNGKUENZEUMdNIKAdNJAMdNKAARAEdNKINDI",
   "dNSHAdNSHIEEdNTAPeMFAAeNTAAdNTOQPENdNYETdNYIdNYIT MONGKEUAEQdNZA MFONdNZUN MEUTdPA LEERAEWA",
   "dPAAMdPAARAEdPAMSHAEdPASHAEdPETdPON MFON PIPAEMBAfPIPAEMGBIEEePA NJI PIPAEMBAgPIPAEMGBIEEdPUP",
   "dROMdSEUNYAMdSHINDA PA NJIdSHIRAEdSHOQ NSHUT YUMdSHUENSHUETdSHUMdSISAdSONJAMdSOQdSOTdSUU",
   "dTEUAENdTEUTEUWENdTITA MFONdTU MAEMBAdTUAEPdU YUQ NAEdUNKNOWNdVEEcPHASE-B FEEdFEUXdGHEUGHEN",
   "dGHEUGHEUAEMdKAMdKEUAEMdKEUPUQdKEUYEUXdKIEEMdKIQdLAANAEdLAM NSHUT NYAMdLETdLOM NTEUMdMA",
   "eNJEUAENAeNJUQAdMBA MAELEEdMBAARAEdMBEURIdMBIT MBAAKETdMBUOQdMEUQdMEUT NGGEETdMFIYAQ",
   "dMFON TEUAEQdMONTIEENdNDU NJAAdNGGAAMdNGGEU MBUdNGGUOQeLARGEdNGKINDI MVOPdNGOMdNSENdNSHUET",
   "dNTIEE SHEUOQdNYAEMAEdNYI NTEUMdPARUMdPEESHIdPITdPUNGAAMdSAKEUAEdSET TUdSHET NJAQdSHEUAEQTU",
   "dSIEEdSUEdTAAMdTU MAEMGBIEEeNSIEEdVEUMdWUAETdYAFU LEERAEWAdYEURAEcPHASE-C BUNGdFUEdGBAYIdGHAP",
   "dGHARAEdKAAdKEN FATIGUEeLAWdKETdKEUKAQdKEUMdKEUSEUXdKEUSHEUAEPdKPARAQdKUOP NKAARAEdKUTdLAMdLAP",
   "dLIQdLUdMA KEUAERIeNSIEEdMAEMBAdMAESIdMBAA CABBAGE-TREEePICKETdMBANYIdMBEEKEETdMBERAEdMBEUM",
   "dMBEUXdMBIdMBIRIEENdMBITdMBUAEMdMBUEdMGBASAQdMIEEdMUAEdNANSANAQdNAQdNDAMdNDAPdNDEUAEREEdNDEUT",
   "dNDIDAdNDOMBUdNGAQdNGGENdNGGUdNGGUAEN NYAMdNGGUEETdNGGUMdNGGUONdNGKAQdNGKUE MAEMBAdNGOMdNJAEM",
   "dNJAMdNJEEEEdNJEUXdNJUEQdNSAdNSEUAENdNSHAQdNSOMdNSUNdNSUOT NGOMdNTAAdNTENdNTEUNGBAdNTU MBIT",
   "dNYIR MKPARAQ MEUNdNZAdNZEUMdPENdPINdPIRIEENdRUdSETFONdSEUXdSHIQdSHUEQdSUAETdTAASHAEdTET",
   "dTEUTEUXdTITA YUEdTITUAEPdVEUAEPENdVEUXdWANGKUOQdWUPdYAAdYEUQdYU MUOMAEdYUMdYUWOQcPHASE-D FAA",
   "dFEUFEUAETdGHAAdGHEUAEdKETdKEUAETMEUNdKEUMdKEUOT MBUAEdKEUPdKUdKUNdKUOMdKUQdKWAETdKYEEdLEEEE",
   "dLETdLEUAEPdLEUMdLIEEdLOQdLUMdMdMAENJETdMALEERIdMBAAeSEVENdMBUOdMEEEEdMEUNdMEUTdMFEUAEdMFEUT",
   "dMFIEEdMFOdMFONdMGBEUNdMGBIEEdMGBOFUMdMONIdMUdMVOPdNDAMdNDEEdNDEUXdNDONdNGGAAMdNGGAAMAEdNGGAP",
   "dNGGEUXdNGGUOMdNGGWAENdNGKAPdNGKEUAEQdNGKEURIdNGKIEEdNGKUNdNGKYEEdNIdNJAPdNJEUAEMdNJEUTdNJI",
   "dNJIEEdNJUEQdNSHEEdNSHUTdNSIEEPdNSIEETdNSUMdNTEEdNTEUMdNTUUdNUdNYAMdNYETdNYIdNYUEdPAPdPEE",
   "dPEUTAEdPIPdPUQdPUUTdRAEMdREN MUCHeOLDdRIIdSAPdSAQdSEUAEQdSHEEdSHEUAEdSHEUXdSHIIdSHOQdSHUdSOT",
   "dSUAEdSUEdSUUdTAEdTEEEEdTEUAENdTEUNdTEUTdTIdTOQdTUdTUOTdWAPdWUAENdYAEMMAEdYENdYUOMdYUOPdYUWOQ",
   "cPHASE-E AdFAdFAQdFEEdFOMdFU CALLeIeREMEDYdFUEdFUETdGBETdGBEUXdGHAAMAEdGHETdGHEUAEdGHEUNdGHEUX",
   "dGHOMdIdKETdKEUAEdKEUXdKIdKOdKPEUXdKUETdKUOPdKUTdLAAMdLAPdLAQdLEUAEMdLOMdLOONdLOOTdLOQdLUdMA",
   "dMAEdMAEMdMAPdMAQdMBEEdMBEUMdMENdMFEUQdMGBAdMGBENdMIdMIEEdMONdMUAEdMVIdNAdNAEdNDAA MY HOUSE",
   "eSOFTNESSdNDAPdNDIAQdNDIQdNDUNdNGAdNGEUREUTdNGGEEEEdNGGEUAEdNGGEUAETdNGGUAESHAE NYAMdNGGUP",
   "dNGGURAEdNGKAdNGKAAMIdNGKEUAEMdNGKEUXdNGKUMdNGKUPdNGOPdNGOQdNGUAEdNGUAETdNJAEMLIdNJEEeEPOCH",
   "dNJEUXdNKOMdNSHIEEdNSHUEdNSHUOPdNTAPdNTUMdNYI BETWEENeCLEAVERdNZAQdNZUQdOdPA PEOPLEePLURALdPAA",
   "dPAAMdPEEMdPEUTdPEUXdPIdPIEEQdPIETdPOdPOONdPUdPUAEdPUAQdPUEdPUMdRAEdRAQdREUXdRIMGBAdSAAdSEE",
   "dSETdSHEUAEQdSHIQdSHOdSHOQdSOMdSUAENdTAAdTAAQdTAEN NTEUMdTAMdTAQdTENdTEUdTEUAEQdTOOdTOONdTOQ",
   "dTUAEdTUMdTUMAEdVEEdVEUAEdVOMdWEUXdWUEdWUOdYAPdYEUAEdYEUAETdYEUMdYEUXdYIEEdYITdYOQ COVER",
   "eSWIMMINGdYUAENdYUEQdYUNdYUQcPHASE-F EEdFOMdKAdKENdKETdKOdKPAdKUdKYEEdLAdLIdLOQdMdMAdMBAAdMBEN",
   "dMEEEEdMOdNDAAdNGGAdNGKWAENdNIdNJAEMdNJUAEdNSHAdNTEEdNUdNUAEdNYIdPEEdPEUXdPUAEdREEdRENdREUX",
   "dRIEEdRIIdRUdSAMBAdSEUXdSHIIdSHOdSHUdSIdSUUdTAAdTAEdTETdUdVUEQdWAdWUEdYAdYOQcPIcPUAEcPUEcRAE",
   "cREEcRENcREUXcRIEEcRIIcRUcSAMBAcSEUXcSHEUXcSHIIcSHOcSHUcSIcSUUcTAAcTAEcTENcTETcTIcUcWAcWUEcYA",
   "cYOQcYUQbNJAEMLIbQUESTION MARKbSEMICOLONaBANANAaBANJOaBANKaBANKNOTE WITH DOLLAR SIGNcEURO SIGN",
   "cPOUND SIGNcYEN SIGNaBAR CHARTbOF SOAPaBARBER POLEaBASEBALLaBASKETaBASKETBALL AND HOOP",
   "aBASSA VAH COMBINING HIGH TONEdHIGH-LOW TONEdLOW TONEdLOW-MID TONEdMID TONEcFULL STOPcLETTER A",
   "dBAdCEdDHIIdDOdEdEEdENNIdFAdGAHdGBUdHWAHdIdJOdKAdKPAHdMBEdOdOOdPAdSEdTOdUdUWUdVUdWAdWADDAdYEIN",
   "dYIEdZOaBATaBATAK CONSONANT SIGN HdNGbLETTER AcBAcCAcDAcGAcHAcIcJAcKARO BAcLAcMAcMANDAILING HA",
   "dNAdSAcMBAcNAcNDAcNGAcNORTHERN TAcNYAcPAcPAKPAK WAcRAcSAcSIMALUNGUN AdGAdHAdLAdMAdPAdRAdSAdWA",
   "dYAcSOUTHERN TAcUcWAcYAbPANGOLATbPANONGONANbSIGN TOMPIbSYMBOL BINDU JUDULdNA METEKdPANGOLAT",
   "dPINARBORASbVOWEL SIGN EdEEdIdKARO IeOdOdPAKPAK EdUeFOR SIMALUNGUN SAaBATHaBATHTUBaBATTERY",
   "aBEACH WITH UMBRELLAaBEAMED ASCENDING MUSICAL NOTESbDESCENDING MUSICAL NOTESbEIGHTH NOTES",
   "bSIXTEENTH NOTESaBEANSaBEAR FACEaBEARDED PERSONaBEATING HEARTaBEAVERaBECAUSEaBEDaBEER MUG",
   "aBEETLEaBELaBELLbPEPPERbSYMBOLbWITH CANCELLATION STROKEaBELLHOP BELLaBENGALI ABBREVIATION SIGN",
   "bANJIbAU LENGTH MARKbCURRENCY DENOMINATOR SIXTEENcNUMERATOR FOURdONEeLESS THAN THE DENOMINATOR",
   "dTHREEdTWObDIGIT EIGHTcFIVEcFOURcNINEcONEcSEVENcSIXcTHREEcTWOcZERObGANDA MARKbISSHARbLETTER A",
   "cAAcAIcAUcBAcBHAcCAcCHAcDAcDDAcDDHAcDHAcEcGAcGHAcHAcIcIIcJAcJHAcKAcKHAcKHANDA TAcLAcMAcNAcNGA",
   "cNNAcNYAcOcPAcPHAcRAdWITH LOWER DIAGONALeMIDDLE DIAGONALcRHAcRRAcSAcSHAcSSAcTAcTHAcTTAcTTHAcU",
   "cUUcVEDIC ANUSVARAcVOCALIC LdLLdRdRRcYAcYYAbRUPEE MARKcSIGNbSANDHI MARKbSIGN ANUSVARAcAVAGRAHA",
   "cCANDRABINDUcNUKTAcVIRAMAcVISARGAbVOWEL SIGN AAdAIdAUdEdIdIIdOdUdUUdVOCALIC LeLLeReRR",
   "aBENT ARROW POINTING DOWNWARDS THEN NORTH EASTaBENTO BOXaBENZENE RINGcWITH CIRCLEaBET SYMBOL",
   "aBETWEENaBEVERAGE BOXaBHAIKSUKI DANDAbDIGIT EIGHTcFIVEcFOURcNINEcONEcSEVENcSIXcTHREEcTWOcZERO",
   "bDOUBLE DANDAbGAP FILLER-1cFILLER-2bHUNDREDS UNIT MARKbLETTER AcAAcAIcAUcBAcBHAcCAcCHAcDAcDDA",
   "cDDHAcDHAcEcGAcGHAcHAcIcIIcJAcJHAcKAcKHAcLAcMAcNAcNGAcNNAcNYAcOcPAcPHAcRAcSAcSHAcSSAcTAcTHA",
   "cTTAcTTHAcUcUUcVAcVOCALIC LdRdRRcYAbNUMBER EIGHTcEIGHTYcFIFTYcFIVEcFORTYcFOURcNINEcNINETYcONE",
   "cSEVENcSEVENTYcSIXcSIXTYcTENcTHIRTYcTHREEcTWENTYcTWObSIGN ANUSVARAcAVAGRAHAcCANDRABINDUcVIRAMA",
   "cVISARGAbVOWEL SIGN AAdAIdAUdEdIdIIdOdUdUUdVOCALIC LeReRRbWORD SEPARATORaBICYCLEaBICYCLIST",
   "aBIG REVERSE SOLIDUSbSOLIDUSaBIKINIaBILLED CAPaBILLIARDSaBIOHAZARD SIGNaBIRDaBIRTHDAY CAKE",
   "aBISONaBITCOIN SIGNaBITING LIPaBLACK BOWTIEbCENTRE WHITE STARbCHESS BISHOP",
   "dROTATED NINETY DEGREESeTWO HUNDRED SEVENTY DEGREEScEQUIHOPPERdROTATED NINETY DEGREEScKING",
   "dROTATED NINETY DEGREESeTWO HUNDRED SEVENTY DEGREEScKNIGHTdROTATED FORTY-FIVE DEGREES",
   "eNINETY DEGREESeONE HUNDRED THIRTY-FIVE DEGREESeTHREE HUNDRED FIFTEEN DEGREES",
   "eTWO HUNDRED SEVENTY DEGREESgTWENTY-FIVE DEGREEScKNIGHT-BISHOPcKNIGHT-QUEENcKNIGHT-ROOKcPAWN",
   "dROTATED NINETY DEGREESeTWO HUNDRED SEVENTY DEGREEScQUEENdROTATED NINETY DEGREES",
   "eTWO HUNDRED SEVENTY DEGREEScROOKdROTATED NINETY DEGREESeTWO HUNDRED SEVENTY DEGREES",
   "cTURNED BISHOPdKINGdKNIGHTdPAWNdQUEENdROOKbCIRCLEcFOR RECORDcWITH DOWN ARROWdTWO WHITE DOTS",
   "dWHITE DOT RIGHTbCLUB SUITbCROSS ON SHIELDbCURVED DOWNWARDS AND LEFTWARDS ARROW",
   "eRIGHTWARDS ARROWcLEFTWARDS AND DOWNWARDS ARROWeUPWARDS ARROWcRIGHTWARDS AND DOWNWARDS ARROW",
   "eUPWARDS ARROWcUPWARDS AND LEFTWARDS ARROWeRIGHTWARDS ARROWbDIAMONDcCENTREDcMINUS WHITE X",
   "cON CROSScSUITcWITH DOWN ARROWbDOWN POINTING BACKHAND INDEXbDOWN-POINTING DOUBLE TRIANGLE",
   "cISOSCELES RIGHT TRIANGLEcSMALL TRIANGLEcTRIANGLEbDOWNWARDS EQUILATERAL ARROWHEAD",
   "bDRAUGHTS KINGcMANbDROPLETbFLAGbFLORETTEbFOLDERbFOUR POINTED STARbHARD SHELL FLOPPY DISKbHEART",
   "cSUITbHEXAGONbHORIZONTAL ELLIPSEbHOURGLASSbLARGE CIRCLEcSQUAREbLEFT LANE MERGE",
   "cPOINTING BACKHAND INDEXdINDEXbLEFT-POINTING DOUBLE TRIANGLEeWITH VERTICAL BAR",
   "cISOSCELES RIGHT TRIANGLEcPOINTERcSMALL TRIANGLEcTRIANGLEbLEFTWARDS BULLET",
   "cEQUILATERAL ARROWHEADbLOWER LEFT TRIANGLEcRIGHT TRIANGLEbLOZENGEbMEDIUM DIAMOND",
   "cDOWN-POINTING TRIANGLEeCENTREDcLEFT-POINTING TRIANGLEeCENTREDcLOZENGEcRIGHT-POINTING TRIANGLE",
   "eCENTREDcSMALL DIAMONDdLOZENGEdSQUAREcSQUAREcUP-POINTING TRIANGLEeCENTREDbMOON LILITHbNIB",
   "bOCTAGONbPARALLELOGRAMbPENNANTbPENTAGONbPUSHPINbQUESTION MARK ORNAMENTbRECTANGLE",
   "bRIGHT POINTING BACKHAND INDEXdINDEXbRIGHT-POINTING DOUBLE TRIANGLEeWITH VERTICAL BAR",
   "cISOSCELES RIGHT TRIANGLEcPENTAGONcPOINTERcSMALL TRIANGLEcTRIANGLEdWITH DOUBLE VERTICAL BAR",
   "bRIGHTWARDS ARROWcARROWHEADcBULLETcEQUILATERAL ARROWHEADbROSETTEbSAFETY SCISSORSbSCISSORS",
   "bSHOGI PIECEbSKULL AND CROSSBONESbSLIGHTLY SMALL CIRCLEdSQUAREbSMALL DIAMONDcLOZENGEcSQUARE",
   "cSTARbSMILING FACEbSNOWMANbSPADE SUITbSQUAREcBUTTONcCENTREDcFOR STOPbSTARbSUN WITH RAYS",
   "bTELEPHONEbTINY DIAMONDcLOZENGEcSQUAREbTOUCHTONE TELEPHONEbTRUCKbTWO-WAY LEFT WAY TRAFFIC",
   "bUNIVERSAL RECYCLING SYMBOLbUP POINTING BACKHAND INDEXbUP-POINTING DOUBLE TRIANGLE",
   "cISOSCELES RIGHT TRIANGLEcSMALL TRIANGLEcTRIANGLEbUPPER LEFT TRIANGLEcRIGHT TRIANGLE",
   "bUPWARDS EQUILATERAL ARROWHEADbVERTICAL ELLIPSEcRECTANGLEbVERY SMALL DIAMONDdLOZENGEdSQUARE",
   "aBLACK-FEATHERED NORTH EAST ARROWbRIGHTWARDS ARROWbSOUTH EAST ARROWaBLACK-LETTER CAPITAL CcHcI",
   "cRcZaBLANK SYMBOLaBLOCK SEXTANT-1bSEXTANT-12bSEXTANT-123bSEXTANT-1234bSEXTANT-12345",
   "bSEXTANT-12346bSEXTANT-1235bSEXTANT-12356bSEXTANT-1236bSEXTANT-124bSEXTANT-1245bSEXTANT-12456",
   "bSEXTANT-1246bSEXTANT-125bSEXTANT-1256bSEXTANT-126bSEXTANT-13bSEXTANT-134bSEXTANT-1345",
   "bSEXTANT-13456bSEXTANT-1346bSEXTANT-1356bSEXTANT-136bSEXTANT-14bSEXTANT-145bSEXTANT-1456",
   "bSEXTANT-146bSEXTANT-15bSEXTANT-156bSEXTANT-16bSEXTANT-2bSEXTANT-23bSEXTANT-234bSEXTANT-2345",
   "bSEXTANT-23456bSEXTANT-2346bSEXTANT-235bSEXTANT-2356bSEXTANT-236bSEXTANT-24bSEXTANT-245",
   "bSEXTANT-2456bSEXTANT-25bSEXTANT-256bSEXTANT-26bSEXTANT-3bSEXTANT-34bSEXTANT-345bSEXTANT-3456",
   "bSEXTANT-346bSEXTANT-35bSEXTANT-356bSEXTANT-36bSEXTANT-4bSEXTANT-45bSEXTANT-456bSEXTANT-46",
   "bSEXTANT-5bSEXTANT-56bSEXTANT-6aBLOSSOMaBLOWFISHaBLUE BOOKbHEARTaBLUEBERRIESaBOAR",
   "aBOLD EIGHT SPOKED ASTERISKbFIVE SPOKED ASTERISKbGREEK CROSSbSALTIREbSIX SPOKED ASTERISK",
   "bWHITE CIRCLEcSQUAREaBOMaBOMBaBONEaBOOKaBOOKMARKbTABSaBOOKSaBOOMERANGaBOPOMOFO FINAL LETTER G",
   "dHdKdPdTbLETTER AcAHcAIcAINNcAMcANcANGcANNcAUcAUNNcBcBUcCcCHcDcEcEEcEHcEIcENcENGcENNcERcFcGcGH",
   "cGNcGUcGWcHcIcIHcIMcINNcINNNcIRcIUcJcJIcKcKWcLcLHcMcNcNGcNGGcNNcOdWITH DOT ABOVEcOEcOMcONGcONN",
   "cOOcOUcPcQcRcScSHcTcUcUNNcVcXcZcZHcZIcZYaBOTTLE WITH POPPING CORK",
   "aBOTTOM ARC ANTICLOCKWISE ARROWbCURLY BRACKETbHALF BLACK CIRCLEcINTEGRALcLEFT PARENTHESIS",
   "cRIGHT PARENTHESISbLEFT CORNERcCROPcHALF BRACKETbPARENTHESISbRIGHT CORNERcCROPcHALF BRACKET",
   "bSQUARE BRACKETdOVER TOP SQUARE BRACKETbTORTOISE SHELL BRACKETaBOUQUETbOF FLOWERS",
   "aBOW AND ARROWaBOWL OF HYGIEIAbWITH SPOONaBOWLINGaBOWTIEbWITH LEFT HALF BLACKcRIGHT HALF BLACK",
   "aBOX DRAWINGS DOUBLE DOWN AND HORIZONTALfLEFTfRIGHTdHORIZONTALdUP AND HORIZONTALfLEFTfRIGHT",
   "dVERTICALeAND HORIZONTALfLEFTfRIGHTcDOWN DOUBLE AND HORIZONTAL SINGLEfLEFT SINGLEfRIGHT SINGLE",
   "dHEAVY AND HORIZONTAL LIGHTfLEFT LIGHTgUP LIGHTfRIGHT LIGHTgUP LIGHTfUP HORIZONTAL LIGHT",
   "dLIGHT AND HORIZONTAL HEAVYfLEFT HEAVYgUP HEAVYfRIGHT HEAVYgUP HEAVYfUP HORIZONTAL HEAVY",
   "dSINGLE AND HORIZONTAL DOUBLEfLEFT DOUBLEfRIGHT DOUBLEcHEAVY DOUBLE DASH HORIZONTALfVERTICAL",
   "dDOWNeAND HORIZONTALfLEFTfRIGHTdHORIZONTALdLEFTeAND LIGHT RIGHTdQUADRUPLE DASH HORIZONTAL",
   "fVERTICALdRIGHTdTRIPLE DASH HORIZONTALfVERTICALdUPeAND HORIZONTALfLEFTfLIGHT DOWNfRIGHT",
   "dVERTICALeAND HORIZONTALfLEFTfRIGHTcLEFT DOWN HEAVY AND RIGHT UP LIGHT",
   "dHEAVY AND RIGHT DOWN LIGHTgUP LIGHTgVERTICAL LIGHTdLIGHT AND RIGHT DOWN HEAVYgUP HEAVY",
   "gVERTICAL HEAVYdUP HEAVY AND RIGHT DOWN LIGHTcLIGHT ARC DOWN AND LEFTgRIGHTeUP AND LEFTgRIGHT",
   "dDIAGONAL CROSSeDIAMONDeMIDDLE LEFT TO LOWER CENTREjTO MIDDLE RIGHT",
   "hUPPER CENTRE TO MIDDLE RIGHTmTO LOWER CENTREfRIGHT TO LOWER CENTRE",
   "hUPPER CENTRE TO MIDDLE LEFT TO LOWER CENTREeUPPER CENTRE TO MIDDLE LEFT",
   "jAND MIDDLE RIGHT TO LOWER CENTREjTO LOWER CENTREmTO MIDDLE RIGHTiRIGHT",
   "jAND MIDDLE LEFT TO LOWER CENTREjTO LOWER CENTREmTO MIDDLE LEFTfLEFT TO LOWER RIGHT",
   "fRIGHT TO LOWER LEFTdDOUBLE DASH HORIZONTALfVERTICALdDOWNeAND HORIZONTALfLEFTfRIGHTdHORIZONTAL",
   "eWITH VERTICAL STROKEdLEFTeAND HEAVY RIGHTdQUADRUPLE DASH HORIZONTALfVERTICALdRIGHT",
   "dTRIPLE DASH HORIZONTALfVERTICALdUPeAND HEAVY DOWNfHORIZONTALfLEFTfRIGHTdVERTICAL",
   "eAND HORIZONTALfLEFTfRIGHTcRIGHT DOWN HEAVY AND LEFT UP LIGHTdHEAVY AND LEFT DOWN LIGHT",
   "gUP LIGHTgVERTICAL LIGHTdLIGHT AND LEFT DOWN HEAVYgUP HEAVYgVERTICAL HEAVY",
   "dUP HEAVY AND LEFT DOWN LIGHTcUP DOUBLE AND HORIZONTAL SINGLEfLEFT SINGLEfRIGHT SINGLE",
   "dHEAVY AND DOWN HORIZONTAL LIGHTfHORIZONTAL LIGHTfLEFT DOWN LIGHTgLIGHTfRIGHT DOWN LIGHTgLIGHT",
   "dLIGHT AND DOWN HORIZONTAL HEAVYfHORIZONTAL HEAVYfLEFT DOWN HEAVYgHEAVYfRIGHT DOWN HEAVYgHEAVY",
   "dSINGLE AND HORIZONTAL DOUBLEfLEFT DOUBLEfRIGHT DOUBLEcVERTICAL DOUBLE AND HORIZONTAL SINGLE",
   "fLEFT SINGLEfRIGHT SINGLEdHEAVY AND HORIZONTAL LIGHTfLEFT LIGHTfRIGHT LIGHT",
   "dLIGHT AND HORIZONTAL HEAVYfLEFT HEAVYfRIGHT HEAVYdSINGLE AND HORIZONTAL DOUBLEfLEFT DOUBLE",
   "fRIGHT DOUBLEaBOXING GLOVEaBOYaBOYS SYMBOLaBPHaBRAHMI DANDAbDIGIT EIGHTcFIVEcFOURcNINEcONE",
   "cSEVENcSIXcTHREEcTWOcZERObDOUBLE DANDAbLETTER AcAAcAIcAUcBAcBHAcCAcCHAcDAcDDAcDDHAcDHAcEcGA",
   "cGHAcHAcIcIIcJAcJHAcKAcKHAcLAcLLAcMAcNAcNGAcNNAcNYAcOcOLD TAMIL LLAeLLLAeNNNAeRRAeSHORT EfOcPA",
   "cPHAcRAcSAcSHAcSSAcTAcTHAcTTAcTTHAcUcUUcVAcVOCALIC LdLLdRdRRcYAbNUMBER EIGHTcEIGHTYcFIFTYcFIVE",
   "cFORTYcFOURcJOINERcNINEcNINETYcONEdHUNDREDdTHOUSANDcSEVENcSEVENTYcSIXcSIXTYcTENcTHIRTYcTHREE",
   "cTWENTYcTWObPUNCTUATION CRESCENT BARcDOTcDOUBLE DOTcLINEcLOTUSbSIGN ANUSVARAcCANDRABINDU",
   "cJIHVAMULIYAcOLD TAMIL VIRAMAcUPADHMANIYAcVISARGAbVIRAMAbVOWEL SIGN AAdAIdAUdBHATTIPROLU AAdE",
   "dIdIIdOdOLD TAMIL SHORT EgOdUdUUdVOCALIC LeLLeReRRaBRAILLE PATTERN BLANKcDOTS-1cDOTS-12",
   "cDOTS-123cDOTS-1234cDOTS-12345cDOTS-123456cDOTS-1234567cDOTS-12345678cDOTS-1234568cDOTS-123457",
   "cDOTS-1234578cDOTS-123458cDOTS-12346cDOTS-123467cDOTS-1234678cDOTS-123468cDOTS-12347",
   "cDOTS-123478cDOTS-12348cDOTS-1235cDOTS-12356cDOTS-123567cDOTS-1235678cDOTS-123568cDOTS-12357",
   "cDOTS-123578cDOTS-12358cDOTS-1236cDOTS-12367cDOTS-123678cDOTS-12368cDOTS-1237cDOTS-12378",
   "cDOTS-1238cDOTS-124cDOTS-1245cDOTS-12456cDOTS-124567cDOTS-1245678cDOTS-124568cDOTS-12457",
   "cDOTS-124578cDOTS-12458cDOTS-1246cDOTS-12467cDOTS-124678cDOTS-12468cDOTS-1247cDOTS-12478",
   "cDOTS-1248cDOTS-125cDOTS-1256cDOTS-12567cDOTS-125678cDOTS-12568cDOTS-1257cDOTS-12578cDOTS-1258",
   "cDOTS-126cDOTS-1267cDOTS-12678cDOTS-1268cDOTS-127cDOTS-1278cDOTS-128cDOTS-13cDOTS-134",
   "cDOTS-1345cDOTS-13456cDOTS-134567cDOTS-1345678cDOTS-134568cDOTS-13457cDOTS-134578cDOTS-13458",
   "cDOTS-1346cDOTS-13467cDOTS-134678cDOTS-13468cDOTS-1347cDOTS-13478cDOTS-1348cDOTS-135cDOTS-1356",
   "cDOTS-13567cDOTS-135678cDOTS-13568cDOTS-1357cDOTS-13578cDOTS-1358cDOTS-136cDOTS-1367",
   "cDOTS-13678cDOTS-1368cDOTS-137cDOTS-1378cDOTS-138cDOTS-14cDOTS-145cDOTS-1456cDOTS-14567",
   "cDOTS-145678cDOTS-14568cDOTS-1457cDOTS-14578cDOTS-1458cDOTS-146cDOTS-1467cDOTS-14678cDOTS-1468",
   "cDOTS-147cDOTS-1478cDOTS-148cDOTS-15cDOTS-156cDOTS-1567cDOTS-15678cDOTS-1568cDOTS-157",
   "cDOTS-1578cDOTS-158cDOTS-16cDOTS-167cDOTS-1678cDOTS-168cDOTS-17cDOTS-178cDOTS-18cDOTS-2",
   "cDOTS-23cDOTS-234cDOTS-2345cDOTS-23456cDOTS-234567cDOTS-2345678cDOTS-234568cDOTS-23457",
   "cDOTS-234578cDOTS-23458cDOTS-2346cDOTS-23467cDOTS-234678cDOTS-23468cDOTS-2347cDOTS-23478",
   "cDOTS-2348cDOTS-235cDOTS-2356cDOTS-23567cDOTS-235678cDOTS-23568cDOTS-2357cDOTS-23578cDOTS-2358",
   "cDOTS-236cDOTS-2367cDOTS-23678cDOTS-2368cDOTS-237cDOTS-2378cDOTS-238cDOTS-24cDOTS-245",
   "cDOTS-2456cDOTS-24567cDOTS-245678cDOTS-24568cDOTS-2457cDOTS-24578cDOTS-2458cDOTS-246cDOTS-2467",
   "cDOTS-24678cDOTS-2468cDOTS-247cDOTS-2478cDOTS-248cDOTS-25cDOTS-256cDOTS-2567cDOTS-25678",
   "cDOTS-2568cDOTS-257cDOTS-2578cDOTS-258cDOTS-26cDOTS-267cDOTS-2678cDOTS-268cDOTS-27cDOTS-278",
   "cDOTS-28cDOTS-3cDOTS-34cDOTS-345cDOTS-3456cDOTS-34567cDOTS-345678cDOTS-34568cDOTS-3457",
   "cDOTS-34578cDOTS-3458cDOTS-346cDOTS-3467cDOTS-34678cDOTS-3468cDOTS-347cDOTS-3478cDOTS-348",
   "cDOTS-35cDOTS-356cDOTS-3567cDOTS-35678cDOTS-3568cDOTS-357cDOTS-3578cDOTS-358cDOTS-36cDOTS-367",
   "cDOTS-3678cDOTS-368cDOTS-37cDOTS-378cDOTS-38cDOTS-4cDOTS-45cDOTS-456cDOTS-4567cDOTS-45678",
   "cDOTS-4568cDOTS-457cDOTS-4578cDOTS-458cDOTS-46cDOTS-467cDOTS-4678cDOTS-468cDOTS-47cDOTS-478",
   "cDOTS-48cDOTS-5cDOTS-56cDOTS-567cDOTS-5678cDOTS-568cDOTS-57cDOTS-578cDOTS-58cDOTS-6cDOTS-67",
   "cDOTS-678cDOTS-68cDOTS-7cDOTS-78cDOTS-8aBRAINaBREADaBREAK PERMITTED HEREaBREAST-FEEDINGaBREVE",
   "aBRICKaBRIDE WITH VEILaBRIDGE AT NIGHTaBRIEFCASEaBRIEFSaBROCCOLIaBROKEN BAR",
   "bCIRCLE WITH NORTHWEST ARROWbHEARTaBROOMaBROWN HEARTaBSaBUBBLE TEAaBUBBLESaBUCKETaBUG",
   "aBUGINESE END OF SECTIONbLETTER AcBAcCAcDAcGAcHAcJAcKAcLAcMAcMPAcNAcNGAcNGKAcNRAcNYAcNYCAcPA",
   "cRAcSAcTAcVAcYAbPALLAWAbVOWEL SIGN AEdEdIdOdUaBUHID LETTER AcBAcDAcGAcHAcIcKAcLAcMAcNAcNGAcPA",
   "cRAcSAcTAcUcWAcYAbVOWEL SIGN IdUaBUILDING CONSTRUCTIONaBULLETbOPERATORaBULLHORN",
   "bWITH SOUND WAVESaBULLSEYEaBURRITOaBUSbSTOPaBUST IN SILHOUETTEaBUSTS IN SILHOUETTEaBUTTER",
   "aBUTTERFLYaBYTE ORDER MARKaBYZANTINE MUSICAL SYMBOL AGOGI ARGIeARGOTERIeGORGIeGORGOTERIeMESI",
   "eMETRIAePOLI ARGIfGORGIdANATRICHISMAdANTIKENOKYLISMAdANTIKENOMAdAPESO EKFONITIKONeEXO NEOdAPLI",
   "dAPODERMA ARCHAIONeNEOdAPOSTROFOI SYNDESMOS NEOeTELOUS ICHIMATOSdAPOSTROFOSeDIPLIeNEOdAPOTHEMA",
   "dARGONdARGOSYNTHETONdARKTIKO DIeGAeKEeNIePAeVOUeZOdCHAMILIdCHAMILONdCHOREVMA ARCHAIONeNEO",
   "dCHROA KLITONeSPATHIeZYGOSdDASEIAdDIARGONdDIASTOLI APLI MEGALIfMIKRIeDIPLIeTHESEOS",
   "dDIESIS APLI DYO DODEKATAeDIGRAMMOS EX DODEKATAeMONOGRAMMOS TESSERA DODEKATAeTETARTIMORION",
   "eTRIGRAMMOS OKTO DODEKATAeTRITIMORIONdDIFTOGGOS OUdDIGORGONePARESTIGMENON ARISTERA ANOgKATO",
   "fDEXIAdDIGRAMMA GGdDIPLIeARCHAIONdDYOdEKSTREPTONdELAFRONdENARXIS KAI FTHORA VOUdENDOFONON",
   "dEPEGERMAdETERON ARGOSYNTHETONePARAKALESMAdEXO EKFONITIKONdFANEROSIS DIFONIASeMONOFONIAS",
   "eTETRAFONIASdFHTORA SKLIRON CHROMA VASISdFTHORA ARCHAIONfDEYTEROU ICHOUeDIATONIKI DIfKEfNANA",
   "fNI ANOgKATOfPAfZOeENARMONIOS ANTIFONIAeI YFESIS TETARTIMORIONeMALAKON CHROMA DIFONIAS",
   "gMONOFONIASeNAOS ICHOSeNENANOeSKLIRON CHROMA SYNAFIgVASISfDIATONON DIdGENIKI DIESISeYFESIS",
   "dGORGON ARCHAIONeNEO ANOfKATOePARESTIGMENON ARISTERAfDEXIAdGORGOSYNTHETONdGORTHMIKON N APLOUN",
   "fDIPLOUNdGRONTHISMATAdICHADINdIMIDIARGONdIMIFONONdIMIFTHORAdIMIFTHORONdISAKIA TELOUS ICHIMATOS",
   "dISON ARCHAIONeNEOdKATAVA TROMIKONdKATAVASMAdKATHISTIdKENTIMA ARCHAIONeNEO ANOfKATOfMESO",
   "dKENTIMATAeARCHAIONeNEO ANOfKATOfMESOdKLASMAeANOeKATOdKONTEVMAeALLOdKORONISdKOUFISMA",
   "dKRATIMA ALLOeARCHAIONeNEOdKRATIMATAdKRATIMOKOUFISMAdKRATIMOYPORROONdKREMASTIdKYLISMA",
   "dLEIMMA DYO CHRONONeENOS CHRONOUeIMISEOS CHRONOUeTESSARON CHRONONeTRION CHRONONdLEMOIdLYGISMA",
   "dMARTYRIA ALLI DEYTEROS ICHOSfPROTOS ICHOSeDEYTEROS ICHOSeLEGETOS ICHOSePLAGIOS ICHOS",
   "fTETARTOS ICHOSePROTOS ICHOSePROTOVARYS ICHOSeTETARTOS ICHOSfLEGETOS ICHOSeTRIFONIAS",
   "eTRITOS ICHOSeVARYS ICHOSdMIKRON ISONdNANAdOLIGON ARCHAIONeNEOdOMALONdOXEIA DIPLIeEKFONITIKON",
   "eNEOdOXEIAI ARCHAIONdOYRANISMA ARCHAIONeNEOdPARAKALESMA ARCHAIONeNEOdPARAKLITIKIeARCHAIONeNEO",
   "dPARICHONdPELASTONeNEOdPERISPOMENIdPETASMAdPETASTIdPETASTOKOUFISMAdPIASMA ARCHAIONeNEO",
   "dPSIFISTOLYGISMAdPSIFISTONeNEOdPSIFISTOPARAKALESMAdPSIFISTOSYNAGMAdPSILIdPSILONdRAPISMAdREVMA",
   "dSAXIMATAdSEISMAeNEOdSIMANSIS ARSEOSfDISIMOUfTETRASIMOUfTRISIMOUeTHESEOSfDISIMOUfTETRASIMOU",
   "fTRISIMOUdSTAVROSeAPODEXIAdSTIGMAdSTRAGGISMATAdSYNAGMA ARCHAIONeMETA STAVROUeNEOdSYNEVMAdSYRMA",
   "dSYRMATIKIdTELEIAdTESSERAdTETRAPLIdTHEMAeAPLOUNdTHEMATISMOS ESOeEXOdTHES KAI APOTHESdTHITA",
   "dTINAGMAdTRIAdTRIGORGONdTRIPLIdTROMIKOLYGISMAdTROMIKON ALLOeARCHAIONeNEOdTROMIKOPARAKALESMA",
   "dTROMIKOPSIFISTONdTROMIKOSYNAGMAdVAREIA DIPLIeEKFONITIKONeNEOdVAREIAI ARCHAIONdVATHY",
   "dXIRON KLASMAdYFEN ANOeKATOdYFESIS APLI DYO DODEKATAeDIGRAMMOS EX DODEKATA",
   "eMONOGRAMMOS TESSERA DODEKATAeTRIGRAMMOS OKTO DODEKATAeTRITIMORIONdYPOKRISISeDIPLIdYPORROI",
   "dYPSILIaCACTUSaCADA UNAaCADUCEUSaCALENDARaCALL ME HANDaCAMERAbWITH FLASHaCAMPINGaCAN",
   "aCANADIAN SYLLABICS AcAAcAAIcAAYcAIcAIVILIK BcANcATHAPASCAN MdScAYcBEAVER DENE LeR",
   "cBIBLE-CREE YcBLACKFOOT AdEdIdKAdKEdKIdKOdNAdNEdNIdNOdOdSdWdWAdWEdWIdWOcCcCAcCAAcCAAI",
   "cCARRIER CHAdCHEdCHEEdCHIdCHOdCHUdDEEdDENE GEEdDENTAL SdDIdDLAdDLEdDLEEdDLIdDLOdDLUdDZAdDZE",
   "dDZEEdDZIdDZOdDZUdEEdGAdGAAdGEdGEEdGHAdGHEdGHEEdGHIdGHOdGHUdGIdGOdGUdGWAdGWUdHdHEEdHIdHWAdHWE",
   "dHWEEdHWIdHWOdHWUdIdINITIAL ZdJAdJEdJEEdJIdJJAdJJEdJJEEdJJIdJJOdJJUdJOdJUdJWAdKHAdKHEdKHEEdKHI",
   "dKHOdKHUdKKdKKAdKKEdKKEEdKKIdKKOdKKUdLAdLEdLEEdLHAdLHEdLHEEdLHIdLHOdLHUdLIdLOdLUdMAdMEdMEEdMI",
   "dMOdMUdNAdNEdNEEdNGdNIdNOdNUdPdPAdPEdPEEdPIdPOdPUdRAdREdREEdRIdROdRUdSAdSEdSEEdSHdSHAdSHEdSHEE",
   "dSHIdSHOdSHUdSIdSOdSUdTHAdTHEdTHEEdTHIdTHOdTHUdTLAdTLEdTLEEdTLHAdTLHEdTLHEEdTLHIdTLHOdTLHUdTLI",
   "dTLOdTLUdTSAdTSEdTSEEdTSIdTSOdTSUdTTAdTTEdTTEEdTTIdTTOdTTSAdTTSEdTTSEEdTTSIdTTSOdTTSUdTTUdWA",
   "dWEdWEEdWIdWOdWUdYAdYEdYEEdYIdYOdYUdZdZAdZEdZEEdZIdZOdZUcCEcCHI SIGNcCIcCIIcCOcCOOcCWAcCWAA",
   "cCWEcCWIcCWIIcCWOcCWOOcEcEASTERN WcENcFcFAcFAAcFAAIcFEcFIcFIIcFINAL ACUTEdBOTTOM HALF RING",
   "dDOUBLE ACUTEeSHORT VERTICAL STROKESdDOWN TACKdGRAVEdMIDDLE DOTdPLUSdRAISED DOT",
   "dRIGHT HALF RINGdRINGdSHORT HORIZONTAL STROKEdSMALL RINGdTOP HALF RINGcFOcFOOcFULL STOPcFWAA",
   "cGLOTTAL STOPcHKcHYPHENcIcIIcINcKcKAcKAAcKAAIcKAYcKEcKIcKIIcKOcKOOcKWcKWAcKWAAcKWAYcKWEcKWI",
   "cKWIIcKWOcKWOOcLcLAcLAAcLAAIcLAYcLEcLHcLHAcLHAAcLHIcLHIIcLHOcLHOOcLIcLIIcLOcLOOcLWAcLWAAcLWE",
   "cLWIcLWIIcLWOcLWOOcMcMAcMAAcMAAIcMAYcMEcMEDIAL LdRcMHcMIcMIIcMOcMOOcMOOSE-CREE SKcMWAcMWAAcMWE",
   "cMWIcMWIIcMWOcMWOOcNcN-CREE THEdTHIdTHIIcNAcNAAcNAAIcNASKAPI CWAAdKWAAdMWAAdNWAAdS-WdSCWAdSKW",
   "dSKWAdSPWAdSTWAdSWAAdTWAAdWAAdWOOdYWAAcNATTILIK HAdHAAdHIdHIIdHOdHOOdSHRAdSHRAAdSHRIdSHRII",
   "dSHROdSHROOcNAYcNEcNGcNGAcNGAAcNGAAIcNGAIcNGIcNGIIcNGOcNGOOcNHcNIcNIIcNNGcNNGAcNNGAAcNNGI",
   "cNNGIIcNNGOcNNGOOcNOcNOOcNOYcNUNAVIK HdHAdHAAdHEdHIdHIIdHOdHOOcNUNAVUT HcNWAcNWAAcNWEcNWIcNWII",
   "cNWOcNWOOcOcOJIBWAY CdKdMdNdNWIdNWIIdNWOdNWOOdPdSdSHdTcONcOOcOYcPcPAcPAAcPAAIcPAYcPEcPIcPIIcPO",
   "cPOOcPOYcPWAcPWAAcPWEcPWIcPWIIcPWOcPWOOcPWOYcQcQAcQAAcQAAIcQAIcQIcQIIcQOcQOOcRcR-CREE REdRWE",
   "cRAcRAAcRAAIcRAYcREcRIcRIIcROcROOcRWAcRWAAcRWEEcRWIcRWIIcRWOcRWOOcScSAcSAAcSAAIcSAYcSAYISI HA",
   "dHEdHIdHOdHOOdJIdJUdJUUdMdSHAdSHEdSHIdSHOdSHOOdSHWEdTHdYIcSEcSHcSHAcSHAAcSHAYcSHEcSHIcSHIIcSHO",
   "cSHOOcSHOYcSHWAcSHWAAcSHWEcSHWIcSHWIIcSHWOcSHWOOcSHWOYcSIcSIIcSOcSOOcSOUTH-SLAVEY KAHdKEHdKIH",
   "dKOHcSOYcSPAcSPEcSPIcSPOcSWcSWAcSWAAcSWEcSWIcSWIIcSWOcSWOOcTcTAcTAAcTAAIcTAYcTEcTHcTH-CREE TH",
   "dTHAdTHAAdTHEdTHIdTHIIdTHOdTHOOcTHAcTHAAcTHEcTHIcTHIIcTHOcTHOOcTHWAcTHWAAcTHWEcTIcTIIcTLHA",
   "cTLHEcTLHIcTLHOcTLHOOcTLHWEcTOcTOOcTTAcTTEcTTHcTTHAcTTHAAcTTHEcTTHIcTTHOcTTHOOcTTHWEcTTIcTTO",
   "cTWAcTWAAcTWEcTWIcTWIIcTWOcTWOOcTYAcTYEcTYIcTYOcWAcWAAcWAYcWEcWEST-CREE CWAdCWAAdCWEdCWIdCWII",
   "dCWOdCWOOdFWAAdKWAdKWAAdKWEdKWIdKWIIdKWOdKWOOdLdLAdLAAdLEdLOdLOOdLWAdLWAAdLWEdLWIdLWIIdLWO",
   "dLWOOdMdMWAdMWAAdMWEdMWIdMWIIdMWOdMWOOdNWAdNWAAdNWEdPdPWAdPWAAdPWEdPWIdPWIIdPWOdPWOOdRdRAdRE",
   "dRIdROdRWAAdSHWAdSHWAAdSHWEdSHWIdSHWIIdSHWOdSHWOOdSWAdSWAAdSWEdSWIdSWIIdSWOdSWOOdTHWAAdTWA",
   "dTWAAdTWEdTWIdTWIIdTWOdTWOOdWAdWAAdWEdWIdWIIdWOdWOOdYdYWAdYWAAdYWEdYWIdYWIIdYWOdYWOOcWESTERN W",
   "cWIcWIIcWOcWOOcWOODS-CREE FINAL THdTHdTHAdTHEdTHIdTHOdTHWAdTHWAAdTHWEEdTHWIdTHWIIdTHWOdTHWOOcY",
   "cY-CREE COOdKOOdLOOdMOOdNOOdOOdPOOdPWAAdSOOdTOOdWdYOOcYAcYAAcYAAIcYAYcYEcYIcYIIcYOcYOOcYOYcYWA",
   "cYWAAcYWEcYWIcYWIIcYWOcYWOOaCANCELbCHARACTERbTAGaCANCELLATION XaCANCERaCANDLEaCANDY",
   "aCANNED FOODaCANOEaCAPITULUMaCAPRICORNaCAR SLIDINGaCARD FILE BOXbINDEXcDIVIDERSaCARE OFaCARET",
   "bINSERTION POINTaCARIAN LETTER AcA2cBcC-18cC-39cDcD2cEcE2cGcG2cIcIIcKcK2cLcLDcLD2cMcMBcMB2cMB3",
   "cMB4cNcNDcNGcNNcOcPcP2cQcRcRRcScSHcSH2cSScSTcST2cTcTTcTT2cUcUUcUUUcUUU2cUUU3cUUUUcXaCARON",
   "aCAROUSEL HORSEaCARP STREAMERaCARPENTRY SAWaCARRIAGE RETURNaCARROTaCASTLEaCATbFACE",
   "cWITH TEARS OF JOYdWRY SMILEaCAUCASIAN ALBANIAN CITATION MARKcLETTER ALTdAORdBETdCARdCAYNdCHA",
   "dCHATdCHIdCHOYdCYAWdCYAYdDATdDYANdDZAYdDZYAYdEBdEYNdFAMdGHEYSdGIMdHEYTdINYAdIRBdIWNdJAYNdJHOX",
   "dKARdKIWdLANdLYITdMAQdNOWCdONdPENdPIWRdQARdQAYdRATdSEYKdSHAdSHAKdSHOYdTASdTIWRdTYAYdVEYZdXEYN",
   "dYAYDdYOWDdZARLdZHAdZHILaCAUTION SIGNaCCHaCEDI SIGNaCEDILLAaCELTIC CROSSaCENT SIGN",
   "aCENTRE LINE SYMBOLaCENTRELINE LOW LINEbOVERLINEaCERESaCGJaCHAINSaCHAIRaCHAKMA AU MARKbDANDA",
   "bDIGIT EIGHTcFIVEcFOURcNINEcONEcSEVENcSIXcTHREEcTWOcZERObDOUBLE DANDAbLETTER AAcBAAcBHAAcCAA",
   "cCHAAcDAAcDDAAcDDHAAcDHAAcEcGAAcGHAAcHAAcIcJAAcJHAAcKAAcKHAAcLAAcLHAAcMAAcNAAcNGAAcNNAAcNYAA",
   "cPAAcPHAAcRAAcSAAcTAAcTHAAcTTAAcTTHAAcUcVAAcWAAcYAAcYYAAbMAAYYAAbO MARKbQUESTION MARK",
   "bSECTION MARKbSIGN ANUSVARAcCANDRABINDUcVISARGAbVIRAMAbVOWEL SIGN AdAAdAIdAUdEdEIdIdIIdOdOIdU",
   "dUUaCHAM CONSONANT SIGN FINAL HeMeNGdLAdRAdWAdYAbDIGIT EIGHTcFIVEcFOURcNINEcONEcSEVENcSIX",
   "cTHREEcTWOcZERObLETTER AcAIcBAcBBAcBHAcCHAcCHHAcDAcDDAcDHAcEcFINAL CHdGdKdLdNdNGdPdRdSSdTdYcGA",
   "cGHAcHAcIcJAcJHAcKAcKHAcLAcMAcMUEcNAcNGAcNGUEcNHAcNHJAcNHUEcNUEcOcPAcPHAcPPAcRAcSAcSSAcTAcTHA",
   "cUcVAcYAbPUNCTUATION DANDAcDOUBLE DANDAcSPIRALcTRIPLE DANDAbVOWEL SIGN AAdAIdAUdEIdIdIIdOdOEdU",
   "dUEaCHARACTER TABULATIONcSETcWITH JUSTIFICATIONbTIEaCHART WITH DOWNWARDS TRENDcUPWARDS TREND",
   "eAND YEN SIGNaCHECK MARKaCHECKER BOARDcFILLaCHEERING MEGAPHONEaCHEESE WEDGEaCHEQUERED FLAG",
   "aCHEROKEE LETTER AcDAcDEcDIcDLAcDOcDUcDVcEcGAcGEcGIcGOcGUcGVcHAcHEcHIcHNAcHOcHUcHVcIcKAcLAcLE",
   "cLIcLOcLUcLVcMAcMEcMIcMOcMUcMVcNAcNAHcNEcNIcNOcNUcNVcOcQUAcQUEcQUIcQUOcQUUcQUVcScSAcSEcSIcSO",
   "cSUcSVcTAcTEcTIcTLAcTLEcTLIcTLOcTLUcTLVcTSAcTSEcTSIcTSOcTSUcTSVcUcVcWAcWEcWIcWOcWUcWVcYAcYEcYI",
   "cYOcYUcYVbSMALL LETTER AdDAdDEdDIdDLAdDOdDUdDVdEdGAdGEdGIdGOdGUdGVdHAdHEdHIdHNAdHOdHUdHVdIdKA",
   "dLAdLEdLIdLOdLUdLVdMAdMEdMIdMOdMUdMVdNAdNAHdNEdNIdNOdNUdNVdOdQUAdQUEdQUIdQUOdQUUdQUVdSdSAdSE",
   "dSIdSOdSUdSVdTAdTEdTIdTLAdTLEdTLIdTLOdTLUdTLVdTSAdTSEdTSIdTSOdTSUdTSVdUdVdWAdWEdWIdWOdWUdWVdYA",
   "dYEdYIdYOdYUdYVaCHERRIESaCHERRY BLOSSOMaCHESTNUTaCHI RHOaCHICKENaCHILDaCHILDREN CROSSING",
   "aCHIPMUNKaCHIRONaCHOCOLATE BARaCHOPSTICKSaCHORASMIAN LETTER ALEPHcAYINcBETHcCURLED WAWcDALETH",
   "cGIMELcHEcHETHcKAPHcLAMEDHcMEMcNUNcPEcRESHcSAMEKHcSHINcSMALL ALEPHcTAWcWAWcYODHcZAYIN",
   "bNUMBER FOURcONEdHUNDREDcTENcTHREEcTWENTYcTWOaCHRISTMAS TREEaCHURCHaCINEMA",
   "aCIRCLE DIVIDED BY HORIZONTAL BAR AND TOP HALF DIVIDED BY VERTICAL BAR",
   "bWITH ALL BUT UPPER LEFT QUADRANT BLACKcHORIZONTAL BARcLEFT HALF BLACKcLOWER HALF BLACK",
   "cRIGHT HALF BLACKcSMALL CIRCLE TO THE RIGHTcSUPERIMPOSED XcTWO HORIZONTAL STROKES TO THE RIGHT",
   "cUPPER HALF BLACKdRIGHT QUADRANT BLACKcVERTICAL FILLaCIRCLED ANTICLOCKWISE ARROW",
   "bANTICLOCKWISE-ROTATED DIVISION SIGNbASTERISK OPERATORbBOLD XbBULLETbC WITH OVERLAID BACKSLASH",
   "bCCbCDbCROSS FORMEEdWITH FOUR DOTSeTWO DOTScPOMMEEbCROSSING LANESbDASHbDIGIT EIGHTcFIVEcFOUR",
   "cNINEcONEcSEVENcSIXcTHREEcTWOcZERObDIVISION SIGNcSLASHbDOLLAR SIGN WITH OVERLAID BACKSLASH",
   "bDOT OPERATORbEQUALSbGREATER-THANbHANGUL CHIEUCHdAcCIEUCdAcHIEUHdAcIEUNGdAdUcKHIEUKHdAcKIYEOK",
   "dAcMIEUMdAcNIEUNdAcPHIEUPHdAcPIEUPdAcRIEULdAcSIOSdAcTHIEUTHdAcTIKEUTdA",
   "bHEAVY WHITE RIGHTWARDS ARROWbHORIZONTAL BAR WITH NOTCHbHUMAN FIGUREbIDEOGRAPH ACCEPT",
   "cADVANTAGEcALLIANCEcATTENTIONcCENTREcCONGRATULATIONcCOPYcCORRECTcEARTHcEIGHTcENTERPRISE",
   "cEXCELLENTcFEMALEcFINANCIALcFIREcFIVEcFOURcHAVEcHIGHcITEMcKINDERGARTENcKOTOcLABORcLEFTcLOW",
   "cMALEcMEDICINEcMETALcMOONcNAMEcNIGHTcNINEcONEcPRINTcQUESTIONcRELIGIONcRESOURCEcRESTcRIGHT",
   "cSCHOOLcSECRETcSEVENcSIXcSOCIETYcSPECIALcSTOCKcSTUDYcSUITABLEcSUNcSUPERVISEcTENcTHREEcTWO",
   "cWATERcWOODbINFORMATION SOURCEbITALIC LATIN CAPITAL LETTER CfRbKATAKANA AcEcHAcHEcHIcHOcHUcI",
   "cKAcKEcKIcKOcKUcMAcMEcMIcMOcMUcNAcNEcNIcNOcNUcOcRAcREcRIcROcRUcSAcSEcSIcSOcSUcTAcTEcTIcTOcTUcU",
   "cWAcWEcWIcWOcYAcYOcYUbKOREAN CHARACTER CHAMKOdJUEUIbLATIN CAPITAL LETTER AeBeCeDeEeFeGeHeIeJeK",
   "eLeMeNeOePeQeReSeTeUeVeWeXeYeZcSMALL LETTER AeBeCeDeEeFeGeHeIeJeKeLeMeNeOePeQeReSeTeUeVeWeXeY",
   "eZbLESS-THANbMINUSbMULTIPLICATION SIGN WITH CIRCUMFLEX ACCENTbNUMBER EIGHTEEN",
   "cEIGHTY ON BLACK SQUAREcELEVENcFIFTEENcFIFTYdON BLACK SQUAREcFORTYdEIGHTdFIVEdFOURdNINE",
   "dON BLACK SQUAREdONEdSEVENdSIXdTHREEdTWOcFOURTEENcNINETEENcSEVENTEENcSEVENTY ON BLACK SQUARE",
   "cSIXTEENcSIXTY ON BLACK SQUAREcTENdON BLACK SQUAREcTHIRTEENcTHIRTYdEIGHTdFIVEdFOURdNINE",
   "dON BLACK SQUAREdONEdSEVENdSIXdTHREEdTWOcTWELVEcTWENTYdEIGHTdFIVEdFOURdNINEdON BLACK SQUARE",
   "dONEdSEVENdSIXdTHREEdTWObOPEN CENTRE EIGHT POINTED STARbPARALLELbPERPENDICULARbPLUS",
   "bPOSTAL MARKbREVERSE SOLIDUSbRING OPERATORbSQUAREbTIMESbTRIANGLEcDOWNbVERTICAL BAR",
   "bWHITE BULLETcSTARbWZbXbZERO WITH SLASHaCIRCULATION FUNCTIONaCIRCUMFLEX ACCENTaCIRCUS TENT",
   "aCITYSCAPEbAT DUSKaCJK RADICAL BAMBOOcBLUEcBOLT OF CLOTHcBONEcBOXcBRUSH ONEdTWO",
   "cC-SIMPLIFIED BIRDdCARTdDRAGONdEATdEVENdFISHdFLYdFROGdGATEdGOLDdHORSEdLEAFdLONGdSALTdSEEdSHELL",
   "dSILKdSPEECHdTANNED LEATHERdTOOTHdTURTLEdWINDcCHOKEcCITYcCIVILIANcCLIFFcCLOTHEScCOWcDEATH",
   "cDIVINATIONcDOGcEAT ONEdTHREEdTWOcEWEcEYEcFIREcFOOTcGHOSTcGRASS ONEdTHREEdTWOcHANDcHEAD",
   "cHEART ONEdTWOcHORNcJ-SIMPLIFIED DRAGONdEVENdTOOTHdTURTLEcJADEcKNIFE ONEdTWOcLAME FOURdONE",
   "dTHREEdTWOcLONG ONEdTWOcMEATcMESHcMOONcMORTARcMOTHERcMOUND ONEdTWOcNET FOURdONEdTHREEdTWOcOLD",
   "cPAW ONEdTWOcPERSONcRAINcRAMcRAPcREPEATcSEALcSECOND ONEdTHREEdTWOcSHEEPcSILK",
   "cSIMPLIFIED HALF TREE TRUNKdHORNdWALKdWHEATdYELLOWcSMALL ONEdTWOcSNAKEcSNOUT ONEdTWO",
   "cSPIRIT ONEdTWOcSUNcTABLEcTHREADcTIGERcTURTLEcWALK ONEdTWOcWATER ONEdTWOcWEST ONEdTWO",
   "bSTROKE BXGcDcHcHGcHPcHPWGcHXWGcHZcHZGcHZTcHZWcHZWGcHZZcHZZPcHZZZcHZZZGcNcPcPDcPGcPZcQcScSGcSP",
   "cSTcSWcSWGcSWZcSZcSZWGcSZZcTcTNcWGcXGaCLAMSHELL MOBILE PHONEaCLAPPER BOARDaCLAPPING HANDS SIGN",
   "aCLASSICAL BUILDINGaCLEAR SCREEN SYMBOLaCLINKING BEER MUGSbGLASSESaCLIPBOARD",
   "aCLOCK FACE EIGHT OCLOCKcEIGHT-THIRTYcELEVEN OCLOCKcELEVEN-THIRTYcFIVE OCLOCKcFIVE-THIRTY",
   "cFOUR OCLOCKcFOUR-THIRTYcNINE OCLOCKcNINE-THIRTYcONE OCLOCKcONE-THIRTYcSEVEN OCLOCK",
   "cSEVEN-THIRTYcSIX OCLOCKcSIX-THIRTYcTEN OCLOCKcTEN-THIRTYcTHREE OCLOCKcTHREE-THIRTY",
   "cTWELVE OCLOCKcTWELVE-THIRTYcTWO OCLOCKcTWO-THIRTYaCLOCKWISE CLOSED CIRCLE ARROW",
   "bCONTOUR INTEGRALbDOWNWARDS AND UPWARDS OPEN CIRCLE ARROWSbGAPPED CIRCLE ARROWbINTEGRAL",
   "bOPEN CIRCLE ARROWbRIGHT AND LEFT SEMICIRCLE ARROWS",
   "bRIGHTWARDS AND LEFTWARDS OPEN CIRCLE ARROWShWITH CIRCLED ONE OVERLAYbTOP SEMICIRCLE ARROW",
   "bTRIANGLE-HEADED OPEN CIRCLE ARROWaCLOSE UPaCLOSED BOOKbINTERSECTION WITH SERIFSbLOCK WITH KEY",
   "bMAILBOX WITH LOWERED FLAGdRAISED FLAGbSUBSETcOR EQUAL TObSUPERSETcOR EQUAL TObUMBRELLA",
   "bUNION WITH SERIFSeAND SMASH PRODUCTaCLOUDbWITH LIGHTNINGcRAINcSNOWcTORNADOaCLOWN FACEaCOAT",
   "aCOCKROACHaCOCKTAIL GLASSaCOCONUTaCOFFINaCOINaCOLLISION SYMBOLaCOLONbEQUALSbSIGN",
   "aCOMBINING ACUTE ACCENTdBELOWcTONE MARKbACUTE-GRAVE-ACUTEbACUTE-MACRONbALMOST EQUAL TO ABOVE",
   "eBELOWbANNUITY SYMBOLbANTICLOCKWISE ARROW ABOVEcRING OVERLAYbASTERISK ABOVEcBELOWbBINDU BELOW",
   "bBREVEcBELOWbBREVE-MACRONbBRIDGE ABOVEcBELOWbCANDRABINDUbCARONcBELOWbCEDILLAbCIRCUMFLEX ACCENT",
   "dBELOWbCLOCKWISE ARROW ABOVEcRING OVERLAYbCOMMA ABOVEdRIGHTcBELOWbCONJOINING MACRONdBELOW",
   "bCYRILLIC DASIA PNEUMATAcHUNDRED MILLIONS SIGNdTHOUSANDS SIGNcKAVYKAcLETTER AdBEdBIG YUSdCHE",
   "dDEdDJERVdEFdELdEMdENdERdESdES-TEdFITAdGHEdHAdHARD SIGNdIdIEdIOTIFIED AeBIG YUSeEdKA",
   "dLITTLE YUSdMONOGRAPH UKdOdOMEGAdPEdSHAdSHCHAdSOFT SIGNdTEdTSEdUdUKRAINIAN IEdVEdYATdYERUdYI",
   "dYUdZEdZHEcMILLIONS SIGNcPALATALIZATIONcPAYEROKcPOKRYTIEcPSILI PNEUMATAcTEN MILLIONS SIGN",
   "cTHOUSAND MILLIONS SIGNcTITLOdLEFT HALFdRIGHT HALFcVZMETbDELETION MARKbDEVANAGARI DIGIT EIGHT",
   "dFIVEdFOURdNINEdONEdSEVENdSIXdTHREEdTWOdZEROcLETTER AdKAdNAdPAdRAdUdVIcSIGN AVAGRAHAbDIAERESIS",
   "cBELOWbDIAERESIS-RINGbDOT ABOVEdLEFTdRIGHTcBELOWdLEFTbDOTTED ACUTE ACCENTcGRAVE ACCENT",
   "bDOUBLE ACUTE ACCENTcBREVEdBELOWcCIRCUMFLEX ABOVEcGRAVE ACCENTcINVERTED BREVEeBELOWcLOW LINE",
   "cMACRONdBELOWcOPEN MARK BELOWcOVERLINEcPARENTHESES ABOVEcPLUS SIGN ABOVEeBELOW",
   "cRIGHTWARDS ARROW BELOWcRING BELOWcTILDEdLEFT HALFdRIGHT HALFcVERTICAL LINE ABOVEeBELOW",
   "dSTROKE OVERLAYbDOUBLED CIRCUMFLEX ACCENTbDOWN TACK BELOWbDOWNWARDS ARROWbENCLOSING CIRCLE",
   "dBACKSLASHcDIAMONDcKEYCAPcSCREENcSQUAREcUPWARD POINTING TRIANGLEbEQUALS SIGN BELOWbFERMATA",
   "bFOUR DOTS ABOVEbGLAGOLITIC LETTER AZUdBIG YUSdBUKYdCHRIVIdDJERVIdDOBROdFITAdFRITUdGLAGOLI",
   "dHERUdIdINITIAL IZHEdIOTATED BIG YUSeSMALL YUSdIZHEdKAKOdLJUDIJEdMYSLITEdNASHIdONUdPOKOJI",
   "dRITSIdSHAdSHTAdSLOVOdSMALL YUSdTSIdTVRIDOdUKUdVEDEdYATIdYERIdYERUdYESTUdYOdYUdZEMLJAdZHIVETE",
   "bGRANTHA DIGIT FIVEdFOURdONEdSIXdTHREEdTWOdZEROcLETTER AdKAdNAdPAdVIbGRAPHEME JOINER",
   "bGRAVE ACCENTdBELOWcTONE MARKbGRAVE-ACUTE-GRAVEbGRAVE-MACRONbGREEK DIALYTIKA TONOScKORONIS",
   "cMUSICAL PENTASEMEdTETRASEMEdTRISEMEcPERISPOMENIcYPOGEGRAMMENIbHOMOTHETIC ABOVEbHOOK ABOVE",
   "bHORNbINFINITYbINVERTED BREVEdBELOWcBRIDGE BELOWcDOUBLE ARCH ABOVEeBELOWbIS BELOW",
   "bKATAKANA-HIRAGANA SEMI-VOICED SOUND MARKcVOICED SOUND MARKbKAVYKA ABOVE LEFTdRIGHT",
   "bLATIN LETTER SMALL CAPITAL GfLfMfNfRcSMALL LETTER AfWITH DIAERESISeAEeALPHAeAOeAVeBeBETAeC",
   "fCEDILLAeDeEeESHeETHeFeFLATTENED OPEN A ABOVEeGeHeIeINSULAR DfGfRfTeKeL",
   "fWITH DOUBLE MIDDLE TILDEeLONG SeMeNeOfWITH DIAERESISgLIGHT CENTRALIZATION STROKEePeRfBELOW",
   "fROTUNDAeSeSCHWAeTeTURNED W BELOWeUfWITH DIAERESISgLIGHT CENTRALIZATION STROKEeVeWfBELOWeXeZ",
   "bLEFT ANGLE ABOVEdBELOWcARROW ABOVEdBELOWcARROWHEAD ABOVEdBELOWcHALF RING ABOVEeBELOW",
   "cHARPOON ABOVEcPARENTHESIS ABOVE LEFTdBELOW LEFTcRIGHT ARROW ABOVEeBELOWcTACK BELOW",
   "bLEFTWARDS ARROW OVERLAYcHARPOON WITH BARB DOWNWARDSbLIGATURE LEFT HALFeBELOWcRIGHT HALFeBELOW",
   "bLIGHT CENTRALIZATION STROKE BELOWbLONG DOUBLE SOLIDUS OVERLAYcSOLIDUS OVERLAYcSTROKE OVERLAY",
   "cVERTICAL LINE OVERLAYbLOW LINEbMACRONcBELOWcLEFT HALFeBELOWcRIGHT HALFeBELOWbMACRON-ACUTE",
   "bMACRON-BREVEbMACRON-GRAVEbMINUS SIGN BELOWbNOT TILDE ABOVEbNUMBER SIGN ABOVEbOGONEKcABOVE",
   "bOLD PERMIC LETTER ANeDOIeNENOEeSIIeZATAbOPEN MARK BELOWbOVERLINEbPALATALIZED HOOK BELOW",
   "bPARENTHESES ABOVEcBELOWcOVERLAYbPLUS SIGN ABOVEdBELOWbRETROFLEX HOOK BELOW",
   "bREVERSE SOLIDUS OVERLAYbREVERSED COMMA ABOVEbRIGHT ARROW ABOVEdBELOWcARROWHEAD ABOVE",
   "dAND DOWN ARROWHEAD BELOWeUP ARROWHEAD BELOWdBELOWcHALF RING ABOVEeBELOWcHARPOON ABOVE",
   "cPARENTHESIS ABOVE RIGHTdBELOW RIGHTcTACK BELOWbRIGHTWARDS HARPOON WITH BARB DOWNWARDS",
   "bRING ABOVEcBELOWcOVERLAYbSEAGULL BELOWbSHORT SOLIDUS OVERLAYcSTROKE OVERLAY",
   "cVERTICAL LINE OVERLAYbSNAKE BELOWbSQUARE BELOWcBRACKETS ABOVE",
   "bSTRONG CENTRALIZATION STROKE BELOWbSUSPENSION MARKbTHREE DOTS ABOVEbTILDEcBELOW",
   "cLEFT HALF BELOWcOVERLAYcRIGHT HALF BELOWbTRIPLE ACUTE ACCENTcDOTcUNDERDOTbTURNED COMMA ABOVE",
   "bUP TACK ABOVEdBELOWbUPWARDS ARROW BELOWbUR ABOVEbUS ABOVEbVERTICAL LINE ABOVEdBELOWcTILDE",
   "bWIDE BRIDGE ABOVEcINVERTED BRIDGE BELOWbWIGGLY LINE BELOWbX ABOVEcBELOWbX-X BELOW",
   "bZIGZAG ABOVEcBELOWaCOMETaCOMMAaCOMMERCIAL ATbMINUS SIGNaCOMPASSaCOMPLEMENTaCOMPOSITION SYMBOL",
   "aCOMPRESSIONaCONFETTI BALLaCONFOUNDED FACEaCONFUSED FACEaCONGRUENT WITH DOT ABOVE",
   "aCONICAL TAPERaCONJUNCTIONaCONSTRUCTION SIGNbWORKERaCONTAINS AS MEMBERcNORMAL SUBGROUP",
   "eOR EQUAL TObWITH LONG HORIZONTAL STROKEcOVERBARcVERTICAL BAR AT END OF HORIZONTAL STROKE",
   "aCONTINUOUS UNDERLINE SYMBOLaCONTOUR INTEGRALaCONTROL KNOBSbSEQUENCE INTRODUCER",
   "aCONVENIENCE STOREaCOOKED RICEaCOOKIEaCOOKINGaCOPTIC CAPITAL LETTER AKHMIMIC KHEIdALFA",
   "dBOHAIRIC KHEIdCROSSED SHEIdCRYPTOGRAMMIC EIEeGANGIAeNIeSHEIdDALDAdDEIdDIALECT-P ALEFeHORI",
   "eKAPAeNIdEIEdFEIdFIdGAMMAdGANGIAdHATEdHORIdIAUDAdKAPAdKHEIdKHIdKSIdL-SHAPED HAdLAULAdMIdNIdO",
   "dOLD COPTIC AINfDJAfESHfGANGIAfHAfHATfHEIfHORIfOOUfSHEIfSHIMAeNUBIAN NGIfNYIfSHIMAfWAUdOOUdPI",
   "dPSIdROdSAMPIdSHEIdSHIMAdSIMAdSOUdTAUdTHETHEdUAdVIDAdZATAbCOMBINING NI ABOVEcSPIRITUS ASPER",
   "dLENISbEPACT DIGIT EIGHTdFIVEdFOURdNINEdONEdSEVENdSIXdTHREEdTWOcNUMBER EIGHT HUNDREDdEIGHTY",
   "dFIFTYdFIVE HUNDREDdFORTYdFOUR HUNDREDdNINE HUNDREDdNINETYdONE HUNDREDdSEVEN HUNDREDdSEVENTY",
   "dSIX HUNDREDdSIXTYdTENdTHIRTYdTHREE HUNDREDdTWENTYdTWO HUNDREDcTHOUSANDS MARK",
   "bFRACTION ONE HALFbFULL STOPbMORPHOLOGICAL DIVIDERbOLD NUBIAN DIRECT QUESTION MARKdFULL STOP",
   "dINDIRECT QUESTION MARKdVERSE DIVIDERbSMALL LETTER AKHMIMIC KHEIdALFAdBOHAIRIC KHEI",
   "dCROSSED SHEIdCRYPTOGRAMMIC EIEeGANGIAeNIeSHEIdDALDAdDEIdDIALECT-P ALEFeHORIeKAPAeNIdEIEdFEI",
   "dFIdGAMMAdGANGIAdHATEdHORIdIAUDAdKAPAdKHEIdKHIdKSIdL-SHAPED HAdLAULAdMIdNIdOdOLD COPTIC AIN",
   "fDJAfESHfGANGIAfHAfHATfHEIfHORIfOOUfSHEIfSHIMAeNUBIAN NGIfNYIfSHIMAfWAUdOOUdPIdPSIdROdSAMPI",
   "dSHEIdSHIMAdSIMAdSOUdTAUdTHETHEdUAdVIDAdZATAbSYMBOL KAIcKHI ROcMI ROcPI ROcSHIMA SIMAcSTAUROS",
   "cTAU ROaCOPYLEFT SYMBOLaCOPYRIGHT SIGNaCORALaCORNISH VERSE DIVIDERaCORRESPONDS TO",
   "aCOUCH AND LAMPaCOUNTERBOREaCOUNTERSINKaCOUNTING ROD TENS DIGIT EIGHTeFIVEeFOUReNINEeONEeSEVEN",
   "eSIXeTHREEeTWOcUNIT DIGIT EIGHTeFIVEeFOUReNINEeONEeSEVENeSIXeTHREEeTWOaCOUPLE WITH HEARTaCOW",
   "bFACEaCRaCRABaCREDIT CARDaCRESCENT MOONaCRICKETbBAT AND BALLaCROCODILEaCROISSANTaCROSS MARK",
   "bOF JERUSALEMcLORRAINEbPATTY WITH LEFT CROSSBARdRIGHT CROSSBARbPOMMEEcWITH HALF-CIRCLE BELOW",
   "aCROSSED FLAGSbNEGATIVE SQUARED LATIN CAPITAL LETTER PbSWORDSaCROSSING LANESaCROWNaCRUTCH",
   "aCRUZEIRO SIGNaCRYING CAT FACEbFACEaCRYSTAL BALLaCSIaCUBE ROOTaCUCUMBER",
   "aCUNEIFORM NUMERIC SIGN EIGHT ASHeDISHeGESH2eSHAR2eUfVARIANT FORMeVARIANT FORM USSUgUSSU3",
   "dELAMITE FIFTYeFORTYeONE THIRDeTWO THIRDSdFIVE ASHfTENUeBAN2fVARIANT FORMeBURUeDISHeGESH2",
   "eGESHUeSHAR2eSHARUeSIXTHS DISHeUfVARIANT FORMdFOUR ASHfTENUeBAN2fVARIANT FORMeBURUeDISHeGESH2",
   "eGESHUeSHAR2eSHARUeUfVARIANT FORMeVARIANT FORM LIMMUhAhBgLIMMU4dNIGIDAESHdNIGIDAMINdNINE ASH",
   "eDISHeGESH2eSHAR2eUfVARIANT FORMeVARIANT FORM ILIMMUhAgILIMMU3gILIMMU4",
   "dOLD ASSYRIAN ONE QUARTERgSIXTHdONE BAN2eBURUeEIGHTH ASHeESHE3eGESH2eGESHUeHALF GUR",
   "eQUARTER ASHfGUReSHARUeTHIRD DISHfVARIANT FORM AdSEVEN ASHeDISHeGESH2eSHAR2eUfVARIANT FORM",
   "eVARIANT FORM IMIN AhBgIMIN3dSHAR2 TIMES GAL PLUS DISHhMINdSIX ASHfTENUeDISHeGESH2eSHAR2eU",
   "fVARIANT FORMeVARIANT FORM ASH9dTHREE ASHfTENUeBAN2eBURUfVARIANT FORMeDISHeGESH2eGESHUeSHAR2",
   "fVARIANT FORMeSHARUfVARIANT FORMeVARIANT FORM ESH16gESH21dTWO ASHfTENUeBAN2eBURUeESHE3eGESH2",
   "eGESHUeSHAR2eSHARUeTHIRDS DISHfVARIANT FORM AbPUNCTUATION SIGN DIAGONAL COLONeQUADCOLON",
   "eTRICOLONdOLD ASSYRIAN WORD DIVIDERdVERTICAL COLONbSIGN AdTIMES AeBADeGAN2 TENUeHAeIGI",
   "eLAGAR GUNUeMUSHeSAGcA2cABdGUNUdTIMES ASH2eDUN3 GUNUeGALeGAN2 TENUeHAeIGI GUNUeIMINeLAGABeNUN",
   "fTENUeSHESHeSHU2eU PLUS U PLUS UcAB2dTIMES AeBALAGeGAN2 TENUeME PLUS ENeSHA3eTAK4cAD",
   "dTIMES ESH2cAKdTIMES ERIN2eSHITA PLUS GISHcALdTIMES ALeDIM2eGISHeHAeKAD3eKIeSHEeUSHcALANcALEPH",
   "cAMARdTIMES KUGeSHEcANdOVER ANdPLUS NAGA OPPOSING AN PLUS NAGAfSQUAREDdTHREE TIMEScANSHEcAPIN",
   "cARADdTIMES KURcARKABcASAL2cASHdKABA TENUdOVER ASH OVER ASHhCROSSING ASH OVER ASH OVER ASH",
   "fTUG2 OVER TUG2 TUG2 OVER TUG2 PAPdZIDA TENUcASH2cASHGABcBAcBADdTIMES DISH TENUcBAG3cBAHAR2",
   "dTIMES AB2eNIeZAcBALdOVER BALcBALAGcBARcBARA2cBIdTIMES AeGAReIGI GUNUcBUdCROSSING BU",
   "dOVER BU ABfTIMES NA2fUNcBULUGdOVER BULUGcBURcBUR2cDAdTIMES TAK4cDAGdKISIM5 TIMES A PLUS MASH",
   "fAMARfBALAGfBIfGAgPLUS MASHfGIfGIR2fGUDfHAfIRgPLUS LUfKAKfLAfLUgPLUS MASH2fLUMfNEfPAP PLUS PAP",
   "fSIfTAK4fU2 PLUS GIR2hMASHfUSHdTIMES KURcDAG3cDAMcDARcDARA3cDARA4cDIcDIBcDIMdTIMES IGIeSHE",
   "eU U UcDIM2dTIMES UDcDINdKASKAL U GUNU DISHcDISHdPLUS SHUcDUdGUNUdOVER DUdSHESHIGcDUB",
   "dTIMES ESH2eSHEcDUB2cDUGdTIMES ANSHEeASHfAT LEFTeDINeDUNeERIN2eGAeGIeGIR2 GUNUeGISHeHAeHI",
   "eIGI GUNUeKASKALeKUReKUSHU2fPLUS KASKALeLAK-020eLAMfTIMES KUReLUH PLUS GISHeMASHeMESeMIeNIePI",
   "eSHEeSI GUNUcDUGUDcDUHcDUNcDUN3dGUNUeGUNUcDUN4cDUR2cEdOVER E NUN OVER NUNdTIMES PAPcE2",
   "dTIMES A PLUS HA PLUS DAeGAReKUReMIePAPeSALeSHEeUcEDINcEGIRcELcENdCROSSING ENdOPPOSING EN",
   "dSQUAREDdTIMES GAN2fTENUeMEcERENcERIN2dXcESH2dCROSSING ESH2cEZENdSHESHIG TIMES ASHfHIfIGI GUNU",
   "fLAfLALfMEfMESfSUdTIMES AfPLUS LALhTIMES LALeANeBADeDUN3 GUNUgGUNUeGUDeHAfGUNUeIGI GUNUeKASKAL",
   "fSQUAREDeKU3eLAeLAL TIMES LALeLIeLUeSHEeSUeU2eUDcGAdGUNUcGA2dOVER GA2dTIMES A PLUS DA PLUS HA",
   "gHAgIGIeAB2 TENU PLUS TABeANfPLUS KAK PLUS AeASHeASH2fPLUS GALeBADeBAHAR2eBAR PLUS RAeBUR",
   "fPLUS RAeDAeDIeDIM GUNUfTIMES SHEeDUBeDUG TIMES IGI GUNUgKASKALeELfPLUS LAeENfTIMES GAN2 TENU",
   "eERENeGAeGAN2 TENUeGARfPLUS DIgNEeGIeGI4fPLUS AeGIR2 PLUS SUeHA PLUS AgLU PLUS ESH2eHAL",
   "fPLUS LAeHI PLUS LIeHUB2eIGI GUNUeISH PLUS HU PLUS ASHeKAKeKASKALeKIDfPLUS LALeKU3 PLUS AN",
   "eKUSHU2 PLUS KASKALeLAeLAMfTIMES KUReLUHeME PLUS ENeMIeMUSHeNEfPLUS E2gGIeNUNfOVER NUNePAeSAL",
   "eSAReSHEfPLUS TUReSHIDeSHIMeSUMeTAK4eUeUDfPLUS DUeZIZ2cGABAdCROSSING GABA",
   "dROTATED NINETY DEGREEScGADdOVER GAD GAR OVER GARcGALdGAD OVER GAD GAR OVER GARcGALAMcGAMcGAN",
   "cGAN2dCROSSING GAN2dOVER GAN2dTENUcGARcGAR3cGASHANcGE22cGESHTINdTIMES KUReUcGIdCROSSING GI",
   "dTIMES EeUcGI4dCROSSING GI4dOVER GI4cGIDIMcGIGcGIR2dGUNUcGIR3dTIMES A PLUS IGIeGAN2 TENUeIGI",
   "eLU PLUS IGIePAcGISALcGISHdCROSSING GISHdTENUdTIMES BADeGISH CROSSING GISHeTAK4cGUdCROSSING GU",
   "cGU2dGUNUdTIMES IGI GUNUeKAKfTIMES IGI GUNUeNUNeSAL PLUS TUG2cGUDdOVER GUD LUGAL",
   "dPLUS GISH TIMES TAK4dTIMES A PLUS KUReKURcGULcGUMdTIMES SHEcGURcGUR7cGURUNcGURUSHcHAdGUNU",
   "dTENUeGUNUcHALcHIdTIMES ASHfOVER HI TIMES ASHeASH2eBADeDISHeGADeKINeNUNeSHEeUcHUcHUB2dTIMES AN",
   "eHALeKASKALeLISHeUDcHUL2cHUSHcIdAcIBcIDIMdOVER IDIM BURfSQUAREDcIGcIGIdDIBdGUNU",
   "dOVER IGI SHIR OVER SHIR UD OVER UDdRIcILdTIMES GAN2 TENUcIL2cIMdCROSSING IMdOPPOSING IM",
   "dSQUAREDdTIMES TAK4cIMINcINcIRcISHcKAdTIMES AeADfPLUS KU3eANSHEeASH2eASH3eBADeBALAGeBAReBIeBU",
   "eERIN2eESH2eGAeGALeGAN2 TENUeGARfPLUS SHA3 PLUS AeGIeGIR2eGISHfCROSSING GISHfPLUS SAReGUeGUD",
   "eGUR7eHI TIMES ASH2eIGIeIMeKAeKAKeKIeKIDeLIeLUeLUMeMEfPLUS DUgGIgTEeMIfPLUS NUNUZeNEeNUNePAePI",
   "eRUeSAeSAReSHAeSHEeSHIDeSHUeSHULeSIGeSUHUReTAReTUeUfU UeU2eUDeUMUM TIMES PAeUReUR2eUSHeZIcKA2",
   "dCROSSING KA2cKABcKAD2cKAD3cKAD4cKAD5dOVER KAD5cKAKdTIMES IGI GUNUcKALdCROSSING KALdTIMES BAD",
   "cKAM2cKAM4cKAP ELAMITEcKASKALdLAGAB TIMES U OVER LAGAB TIMES U",
   "dOVER KASKAL LAGAB TIMES U OVER LAGAB TIMES UcKESH2cKIdTIMES BADeUeUDcKIDcKINcKISALcKISH",
   "cKISIM5dOVER KISIM5cKUdOVER HI TIMES ASH2 KU OVER HI TIMES ASH2cKU3cKU4dVARIANT FORMcKU7cKUL",
   "dGUNUcKUNcKURdOPPOSING KURcKUSHU2cKWU318cLAcLAGABdSQUAREDdTIMES AfPLUS DA PLUS HAgGARgLALeAL",
   "eANeASH ZIDA TENUeBADeBIeDAReENeGAeGAReGIeGUDfPLUS GUDeHAeHALeHI TIMES NUNeIGI GUNUeIMfPLUS HA",
   "gLUeKIeKINeKU3eKULfPLUS HI PLUS AeLAGABeLISHeLUeLULeMEfPLUS ENeMUSHeNEeSHE PLUS SUM",
   "eSHITA PLUS GISH PLUS ERIN2hTENUeSHU2fPLUS SHU2eSUMeTAGeTAK4eTE PLUS A PLUS SU PLUS NAeU",
   "fPLUS AgU PLUS UeU2 PLUS ASHeUDeUSHeZU OVER ZUcLAGARdGUNUeOVER LAGAR GUNU SHEdTIMES SHE",
   "fPLUS SUMcLAHSHUcLAK-003cLAK-021cLAK-025cLAK-030cLAK-050cLAK-051cLAK-062",
   "cLAK-079 OVER LAK-079 GUNUcLAK-080cLAK-081 OVER LAK-081cLAK-092cLAK-130cLAK-142cLAK-210",
   "cLAK-219cLAK-220cLAK-225cLAK-228cLAK-238cLAK-265cLAK-266cLAK-343cLAK-347cLAK-348cLAK-383",
   "cLAK-384cLAK-390cLAK-441cLAK-449dTIMES GUeIGIePAP PLUS LU3gPAP PLUS LU3eU2 PLUS BAcLAK-450",
   "cLAK-457cLAK-470cLAK-483cLAK-490cLAK-492cLAK-493cLAK-495cLAK-550cLAK-608cLAK-617dTIMES ASHeBAD",
   "eDUN3 GUNU GUNUeKU3eLAeTAReTEeU2eUDeURUDAcLAK-636cLAK-648dTIMES DUBeGAeIGIfGUNUeNI",
   "ePAP PLUS PAP PLUS LU3eSHESH PLUS KIeUDeURUDAcLAK-724cLAK-749cLALdTIMES LALcLAMdTIMES KUR",
   "fPLUS RUcLIcLILcLIMMU2cLISHcLUdTIMES BADcLU2dCROSSING LU2dGUNU TIMES ASHdOPPOSING LU2dSHESHIG",
   "eTIMES BADdSQUAREDdTENUdTIMES ALeBADeDISHeESH2fPLUS LALfTENUeGAN2 TENUeHALeHI TIMES BADeIM",
   "eKAD2eKAD3fPLUS ASHeKIeLA PLUS ASHeLAGABeME PLUS ENeNEeNUePAPfPLUS PAP PLUS LU3eSHU",
   "eSI PLUS ASHeSIK2 PLUS BUeTAK4eTUG2cLU3cLUGALdOPPOSING LUGALdOVER LUGALdSHESHIGcLUHcLULcLUM",
   "dOVER LUMfGAR OVER GARcMAdGUNUdTIMES TAK4cMA2cMAHcMARcMASHcMASH2cMEcMEScMESHcMIdPLUS ZA7cMIN",
   "cMUdOVER MUcMUGdGUNUcMUNSUBcMURGU2cMUSHdCROSSING MUSHdOVER MUSHfTIMES A PLUS NAgGAgKAKdTIMES A",
   "eKUReZAcMUSH3dGUNUdTIMES AfPLUS DIeDIeZAcNAcNA2cNA4cNAGAdINVERTEDdOPPOSING NAGAdTIMES SHU TENU",
   "cNAGARcNAMdNUTILLUcNAM2cNEdSHESHIGdTIMES AeUDcNIdTIMES EcNI2cNIMdTIMES GAN2 TENU",
   "eGAR PLUS GAN2 TENUcNINcNIN9cNINDA2dTIMES ANeASHfPLUS ASHeBALeDIM GUNUeGIeGISHeGUDeGULeHI",
   "eKESH2eLAK-050eMASHeME PLUS GAN2 TENUeNEeNUNePAP PLUS PAPeSHEfPLUS A ANgASHhPLUS ASHeUfPLUS U",
   "eU2 PLUS ASHeURUDAeUSHcNISAGcNUcNU11dOVER NU11 BUR OVER BURdROTATED NINETY DEGREESdTENUcNUN",
   "dCROSSING NUNfLAGAR OVER LAGARdLAGAR TIMES GARfMASHfSALgOVER NUN LAGAR TIMES SALfUSHdOVER NUN",
   "dTENUcNUNUZdAB2 TIMES ASHGABfBIfDUGfGUDfIGI GUNUfKAD3fLAfNEfSILA3fU2dKISIM5 TIMES BIgUcPAcPAD",
   "cPANcPAPcPESH2dASTERISKcPIdCROSSING PIdTIMES AeABeBIeBUeEeIeIBeUeU2cPIR2cPIRIGdOPPOSING PIRIG",
   "dTIMES KALeUDeZAcRAcRABcRIcRUcSAcSAGdGUNUeTIMES HAdNUTILLUdOVER SAGdTIMES AeDUeDUBeENeHA",
   "eIGI GUNUeKAKeKUReLUMeMIeNUNeSALeSHE AT LEFTeSHIDeTABeTAK4eU2eUBeUMeUReUSHcSAL",
   "dLAGAB TIMES ASH2cSANGA2cSARcSHAcSHA3dTIMES AeBADeGISHeNEeSHU2eTUReUfPLUS AcSHA6dTENUcSHAB6",
   "cSHAR2cSHEdHUdOVER SHEfGAD OVER GAD GAR OVER GARfTAB OVER TAB GAR OVER GARdPLUS HUB2eNAM2eSAR",
   "cSHEG9cSHENcSHESHcSHESH2cSHESHLAMcSHIDdTIMES AeIMcSHIMdTIMES AeBALeBULUGeDINeGAReIGIfGUNU",
   "eKUSHU2eLULeMUGeSALcSHINIGcSHIRdOVER SHIR BUR OVER BURdTENUcSHITAcSHUdOVER INVERTED SHUcSHU2",
   "dPLUS DUG TIMES NIeE2 TIMES ANcSHUBURcSIdGUNUdTIMES TAK4cSIGcSIG4dOVER SIG4 SHU2cSIK2cSILA3cSU",
   "dOVER SUcSUDcSUD2cSUHURcSUMcSUMASHcSURcSUR9cTAdASTERISKdGUNUdTIMES HIeMIcTAB",
   "dOVER TAB NI OVER NI DISH OVER DISHdSQUAREDcTAGdTIMES BIeGUDeSHEeSHUeTUG2eUDcTAK4dPLUS SAGcTAR",
   "cTEdGUNUcTIdTENUcTI2cTILcTIRdOVER TIRfGAD OVER GAD GAR OVER GARdTIMES TAK4cTUcTUG2cTUKcTUM",
   "dTIMES GAN2 TENUeTHREE DISHcTURdOVER TUR ZA OVER ZAcUdGUDdOVER U PA OVER PA GAR OVER GAR",
   "fSUR OVER SURfU REVERSED OVER U REVERSEDdUeUcU2cUBcUDdGUNUdKUSHU2dSHESHIGeTIMES BADdTIMES BAD",
   "eMIeU PLUS U PLUS UjGUNUcUDUGcUMdTIMES LAGABeMEfPLUS DAeSHA3eUcUMBINcUMUMdTIMES KASKALePAcUN",
   "dGUNUcURdCROSSING URdSHESHIGcUR2dINVERTEDdTIMES A PLUS HAgNAeALeHAeNUNeU2fPLUS ASHgBIeUDcUR4",
   "cURIcURI3cURUdTIMES AeASHGABeBAReDARA3eDUNeGAeGALeGAN2 TENUeGAReGUeHAeIGIeIMeISHeKIeLAK-668",
   "eLU3eLUMeMINePAeSHEeSIG4eTUeU PLUS GUDeUDeURUDAcURUDAdTIMES UcUSHdTIMES AeKUeKUReTAK4cUSH2",
   "cUSHUMXcUSHXcUTUKIcUZ3dTIMES KASKALcUZUcZAdSQUARED TIMES KURdTENUcZA7cZAGcZAMXcZE2cZIdOVER ZI",
   "cZI3cZIBdKABA TENUcZIGcZIZ2cZUdOVER ZU PLUS SARcZU5dTIMES AeTHREE DISH TENUcZUBURcZUM",
   "aCUP ON BLACK SQUAREbWITH STRAWaCUPCAKEaCUPIDOaCURLING STONEaCURLY BRACKET EXTENSION",
   "bLOGICAL ANDcORbLOOPaCURRENCY EXCHANGEbSIGNaCURRY AND RICEaCURVED STEM PARAGRAPH SIGN ORNAMENT",
   "aCUSTARDaCUSTOMSaCUT OF MEATaCYCLONEaCYLINDRICITYaCYPRIOT SYLLABLE AcEcIcJAcJOcKAcKEcKIcKOcKU",
   "cLAcLEcLIcLOcLUcMAcMEcMIcMOcMUcNAcNEcNIcNOcNUcOcPAcPEcPIcPOcPUcRAcREcRIcROcRUcSAcSEcSIcSOcSU",
   "cTAcTEcTIcTOcTUcUcWAcWEcWIcWOcXAcXEcZAcZOaCYPRO-MINOAN SIGN CM001cCM002cCM004cCM005cCM006",
   "cCM007cCM008cCM009cCM010cCM011cCM012cCM012BcCM013cCM015cCM017cCM019cCM021cCM023cCM024cCM025",
   "cCM026cCM027cCM028cCM029cCM030cCM033cCM034cCM035cCM036cCM037cCM038cCM039cCM040cCM041cCM044",
   "cCM046cCM047cCM049cCM050cCM051cCM052cCM053cCM054cCM055cCM056cCM058cCM059cCM060cCM061cCM062",
   "cCM063cCM064cCM066cCM067cCM068cCM069cCM070cCM071cCM072cCM073cCM074cCM075cCM075BcCM076cCM078",
   "cCM079cCM080cCM081cCM082cCM083cCM084cCM085cCM086cCM087cCM088cCM089cCM090cCM091cCM092cCM094",
   "cCM095cCM096cCM097cCM098cCM099cCM100cCM101cCM102cCM103cCM104cCM105cCM107cCM108cCM109cCM110",
   "cCM112cCM114cCM301cCM302aCYRILLIC CAPITAL LETTER AeWITH BREVEfDIAERESISdABKHASIAN CHE",
   "fWITH DESCENDEReDZEeHAdALEUT KAdBARRED OfWITH DIAERESISdBASHKIR KAdBEdBIG YUSdBINOCULAR O",
   "dBLENDED YUSdBROAD OMEGAdBYELORUSSIAN-UKRAINIAN IdCCHEdCHEeWITH DESCENDERfDIAERESIS",
   "fVERTICAL STROKEdCLOSED LITTLE YUSdCROSSED OdDCHEdDEdDJEdDJERVdDOUBLE MONOCULAR OeOdDWEdDZE",
   "dDZELOdDZHEdDZWEdDZZEdDZZHEdEeWITH DIAERESISdEFdELeWITH DESCENDERfHOOKfMIDDLE HOOKfTAILdEM",
   "eWITH TAILdENeWITH DESCENDERfHOOKfLEFT HOOKfMIDDLE HOOKfTAILdEReWITH TICKdESeWITH DESCENDER",
   "dFITAdGHEeWITH DESCENDERfMIDDLE HOOKfSTROKEgAND HOOKfUPTURNdGJEdHAeWITH DESCENDERfHOOKfSTROKE",
   "dHARD SIGNdHWEdIeWITH DIAERESISfGRAVEfMACRONdIEeWITH BREVEfGRAVEdIOdIOTAdIOTIFIED AeBIG YUS",
   "eCLOSED LITTLE YUSeEeLITTLE YUSeYATdIZHITSAeWITH DOUBLE GRAVE ACCENTdJEdKAeWITH DESCENDERfHOOK",
   "fSTROKEfVERTICAL STROKEdKHAKASSIAN CHEdKJEdKOMI DEeDJEeDZJEeLJEeNJEeSJEeTJEeZJEdKOPPAdKSIdLHA",
   "dLITTLE YUSdLJEdMONOCULAR OdMONOGRAPH UKdNEUTRAL YERdNJEdOeWITH DIAERESISdOMEGAeWITH TITLOdOT",
   "dPEeWITH DESCENDERfMIDDLE HOOKdPSIdQAdREVERSED DZEeTSEeYUeZEdRHAdROUND OMEGAdSCHWA",
   "eWITH DIAERESISdSEMISOFT SIGNdSHAdSHCHAdSHHAeWITH DESCENDERdSHORT IfWITH TAILeUdSHWEdSOFT DE",
   "eELeEMeSIGNdSTRAIGHT UfWITH STROKEdTCHEdTEeWITH DESCENDERfMIDDLE HOOKdTSEdTSHEdTSSEdTSWEdTWEdU",
   "eWITH DIAERESISfDOUBLE ACUTEfMACRONdUKdUKRAINIAN IEdVEdWEdYAdYAEdYATdYERUeWITH BACK YER",
   "fDIAERESISdYIdYNdYUdZEeWITH DESCENDERfDIAERESISdZEMLYAdZHEeWITH BREVEfDESCENDERfDIAERESISdZHWE",
   "cLIGATURE A IEdEN GHEdTE TSEbKAVYKAbLETTER MULTIOCULAR OcPALOCHKAcSMALL CAPITAL ELbPAYEROK",
   "bSMALL LETTER AeWITH BREVEfDIAERESISdABKHASIAN CHEfWITH DESCENDEReDZEeHAdALEUT KAdBARRED O",
   "fWITH DIAERESISdBASHKIR KAdBEdBIG YUSdBINOCULAR OdBLENDED YUSdBROAD OMEGA",
   "dBYELORUSSIAN-UKRAINIAN IdCCHEdCHEeWITH DESCENDERfDIAERESISfVERTICAL STROKEdCLOSED LITTLE YUS",
   "dCROSSED OdDCHEdDEdDJEdDJERVdDOUBLE MONOCULAR OeOdDWEdDZEdDZELOdDZHEdDZWEdDZZEdDZZHEdE",
   "eWITH DIAERESISdEFdELeWITH DESCENDERfHOOKfMIDDLE HOOKfTAILdEMeWITH TAILdENeWITH DESCENDERfHOOK",
   "fLEFT HOOKfMIDDLE HOOKfTAILdEReWITH TICKdESeWITH DESCENDERdFITAdGHEeWITH DESCENDERfMIDDLE HOOK",
   "fSTROKEgAND HOOKfUPTURNdGJEdHAeWITH DESCENDERfHOOKfSTROKEdHARD SIGNdHWEdIeWITH DIAERESISfGRAVE",
   "fMACRONdIEeWITH BREVEfGRAVEdIOdIOTAdIOTIFIED AeBIG YUSeCLOSED LITTLE YUSeEeLITTLE YUSeYAT",
   "dIZHITSAeWITH DOUBLE GRAVE ACCENTdJEdKAeWITH DESCENDERfHOOKfSTROKEfVERTICAL STROKE",
   "dKHAKASSIAN CHEdKJEdKOMI DEeDJEeDZJEeLJEeNJEeSJEeTJEeZJEdKOPPAdKSIdLHAdLITTLE YUSdLJE",
   "dLONG-LEGGED DEdMONOCULAR OdMONOGRAPH UKdNARROW OdNEUTRAL YERdNJEdOeWITH DIAERESISdOMEGA",
   "eWITH TITLOdOTdPALOCHKAdPEeWITH DESCENDERfMIDDLE HOOKdPSIdQAdREVERSED DZEeTSEeYUeZEdRHA",
   "dROUND OMEGAdROUNDED VEdSCHWAeWITH DIAERESISdSEMISOFT SIGNdSHAdSHCHAdSHHAeWITH DESCENDER",
   "dSHORT IfWITH TAILeUdSHWEdSOFT DEeELeEMeSIGNdSTRAIGHT UfWITH STROKEdTALL HARD SIGNeTEeYATdTCHE",
   "dTEeWITH DESCENDERfMIDDLE HOOKdTHREE-LEGGED TEdTSEdTSHEdTSSEdTSWEdTWEdUeWITH DIAERESIS",
   "fDOUBLE ACUTEfMACRONdUKdUKRAINIAN IEdUNBLENDED UKdVEdWEdWIDE ESdYAdYAEdYATdYERUeWITH BACK YER",
   "fDIAERESISdYIdYNdYUdZEeWITH DESCENDERfDIAERESISdZEMLYAdZHEeWITH BREVEfDESCENDERfDIAERESISdZHWE",
   "cLIGATURE A IEdEN GHEdTE TSEbTHOUSANDS SIGNaDAGGERbKNIFEbWITH LEFT GUARDcRIGHT GUARD",
   "aDALET SYMBOLaDANCERaDANGOaDARK SHADEbSUNGLASSESaDASH SYMBOLbWITH LEFT UPTURNaDASHED LOW LINE",
   "bOVERLINEbTRIANGLE-HEADED RIGHTWARDS ARROWaDATA LINK ESCAPEaDC1aDC2aDC3aDC4aDCSaDEAF PERSON",
   "aDECIDUOUS TREEaDECIMAL EXPONENT SYMBOLbSEPARATOR KEY SYMBOLaDECREASE FONT SIZE SYMBOLaDEER",
   "aDEGREE CELSIUSbFAHRENHEITbSIGNaDELaDELETEaDELIVERY TRUCKaDELTA EQUAL TO",
   "aDENTISTRY SYMBOL LIGHT DOWN AND HORIZONTALgWITH CIRCLEhTRIANGLEhWAVEdUP AND HORIZONTAL",
   "gWITH CIRCLEhTRIANGLEhWAVEdVERTICAL AND BOTTOM LEFTgRIGHTfTOP LEFTgRIGHTfWAVEeWITH CIRCLE",
   "fTRIANGLEaDEPARTMENT STOREaDERELICT HOUSE BUILDINGaDESCENDING NODEaDESERET CAPITAL LETTER AY",
   "dBEEdCHEEdDEEdEFdELdEMdENdENGdERdESdESHdETHdEWdGAYdHdJEEdKAYdLONG AeAHeEeIeOeOOdOIdOWdPEE",
   "dSHORT AeAHeEeIeOeOOdTEEdTHEEdVEEdWUdYEEdZEEdZHEEbSMALL LETTER AYdBEEdCHEEdDEEdEFdELdEMdENdENG",
   "dERdESdESHdETHdEWdGAYdHdJEEdKAYdLONG AeAHeEeIeOeOOdOIdOWdPEEdSHORT AeAHeEeIeOeOOdTEEdTHEEdVEE",
   "dWUdYEEdZEEdZHEEaDESERTbISLANDaDESKTOP COMPUTERbWINDOWaDEVANAGARI ABBREVIATION SIGN",
   "bACUTE ACCENTbCARETbDANDAbDIGIT EIGHTcFIVEcFOURcNINEcONEcSEVENcSIXcTHREEcTWOcZERObDOUBLE DANDA",
   "bGAP FILLERbGRAVE ACCENTbHEADSTROKEbJAIN OMbLETTER AcAAcAIcAUcAWcAYcBAcBBAcBHAcCAcCANDRA AdEdO",
   "cCHAcDAcDDAcDDDAcDDDHAcDDHAcDHAcEcFAcGAcGGAcGHAcGHHAcGLOTTAL STOPcHAcHEAVY YAcIcIIcJAcJHAcJJA",
   "cKAcKHAcKHHAcLAcLLAcLLLAcMAcMARWARI DDAcNAcNGAcNNAcNNNAcNYAcOcOEcOOEcPAcPHAcQAcRAcRHAcRRAcSA",
   "cSHAcSHORT AdEdOcSSAcTAcTHAcTTAcTTHAcUcUEcUUcUUEcVAcVOCALIC LdLLdRdRRcYAcYYAcZAcZHAbOM",
   "bSIGN ANUSVARAcAVAGRAHAcCANDRABINDUdAVAGRAHAdTHREEdTWOdVIRAMAcDOUBLE CANDRABINDU VIRAMA",
   "cHIGH SPACING DOTcINVERTED CANDRABINDUcNUKTAcPUSHPIKAcSIDDHAMcSPACING CANDRABINDUcVIRAMA",
   "cVISARGAbSTRESS SIGN ANUDATTAdUDATTAbVOWEL SIGN AAdAIdAUdAWdAYdCANDRA EeLONG EeOdEdIdIIdOdOE",
   "dOOEdPRISHTHAMATRA EdSHORT EeOdUdUEdUUdUUEdVOCALIC LeLLeReRRaDEVICE CONTROL FOURcONEcSTRING",
   "cTHREEcTWOaDIAERESISaDIAMETER SIGNaDIAMOND OPERATORbSHAPE WITH A DOT INSIDEbTARGET",
   "bWITH BOTTOM HALF BLACKcLEFT HALF BLACKcRIGHT HALF BLACKcTOP HALF BLACKaDIE FACE-1bFACE-2",
   "bFACE-3bFACE-4bFACE-5bFACE-6aDIESEL LOCOMOTIVEaDIFFERENCE BETWEENaDIGIT EIGHTcCOMMAcFULL STOP",
   "bFIVEcCOMMAcFULL STOPbFOURcCOMMAcFULL STOPbNINEcCOMMAcFULL STOPbONEcCOMMAcFULL STOPbSEVEN",
   "cCOMMAcFULL STOPbSIXcCOMMAcFULL STOPbTHREEcCOMMAcFULL STOPbTWOcCOMMAcFULL STOPbZEROcCOMMA",
   "cFULL STOPaDIGRAM FOR EARTHcEARTHLY HEAVENdHUMANcGREATER YANGdYINcHEAVENLY EARTHcHUMAN EARTH",
   "cLESSER YANGdYINaDIMENSION ORIGINaDINGBAT CIRCLED SANS-SERIF DIGIT EIGHTeFIVEeFOUReNINEeONE",
   "eSEVENeSIXeTHREEeTWOeZEROdNUMBER TENbNEGATIVE CIRCLED DIGIT EIGHTeFIVEeFOUReNINEeONEeSEVENeSIX",
   "eTHREEeTWOdNUMBER TENdSANS-SERIF DIGIT EIGHTfFIVEfFOURfNINEfONEfSEVENfSIXfTHREEfTWOfZERO",
   "eNUMBER TENaDIRECT CURRENT SYMBOL FORM TWObHITaDISABLED CARaDISAPPOINTED BUT RELIEVED FACE",
   "bFACEaDISCONTINUOUS UNDERLINE SYMBOLaDISGUISED FACEaDITTO MARKaDIVES AKURU DIGIT EIGHTdFIVE",
   "dFOURdNINEdONEdSEVENdSIXdTHREEdTWOdZEROcDOUBLE DANDAcEND OF TEXT MARKcGAP FILLERcINITIAL RA",
   "cLETTER AdAAdBAdBHAdCAdCHAdDAdDDAdDDHAdDHAdEdGAdGHAdHAdIdIIdJAdKAdKHAdLAdLLAdMAdNAdNGAdNNAdNYA",
   "dOdPAdPHAdRAdSAdSHAdSSAdTAdTHAdTTAdUdUUdVAdYAdYYAdZAcMEDIAL RAdYAcPREFIXED NASAL SIGN",
   "cSIGN ANUSVARAdCANDRABINDUdHALANTAdNUKTAcVIRAMAcVOWEL SIGN AAeAIeEeIeIIeOeUeUUaDIVIDES",
   "aDIVING MASKaDIVISION SIGNbSLASHbTIMESaDIVORCE SYMBOLaDIYA LAMPaDIZZY FACEbSYMBOLaDLE",
   "aDNA DOUBLE HELIXaDO NOT LITTER SYMBOLaDOCUMENTbWITH PICTUREcTEXTdAND PICTUREaDODO",
   "aDOES NOT CONTAIN AS MEMBEReNORMAL SUBGROUPgOR EQUALcDIVIDEdWITH REVERSED NEGATION SLASHcFORCE",
   "cPRECEDEdOR EQUALcPROVEcSUCCEEDdOR EQUALaDOGbFACEaDOGRA ABBREVIATION SIGNbLETTER AcAAcAIcAUcBA",
   "cBHAcCAcCHAcDAcDDAcDDHAcDHAcEcGAcGHAcHAcIcIIcJAcJHAcKAcKHAcLAcMAcNAcNGAcNNAcNYAcOcPAcPHAcRA",
   "cRRAcSAcSHAcSSAcTAcTHAcTTAcTTHAcUcUUcVAcYAbSIGN ANUSVARAcNUKTAcVIRAMAcVISARGAbVOWEL SIGN AAdAI",
   "dAUdEdIdIIdOdUdUUdVOCALIC ReRRaDOLLAR SIGNaDOLPHINaDOMINO TILE HORIZONTAL BACK",
   "cHORIZONTAL-00-00cHORIZONTAL-00-01cHORIZONTAL-00-02cHORIZONTAL-00-03cHORIZONTAL-00-04",
   "cHORIZONTAL-00-05cHORIZONTAL-00-06cHORIZONTAL-01-00cHORIZONTAL-01-01cHORIZONTAL-01-02",
   "cHORIZONTAL-01-03cHORIZONTAL-01-04cHORIZONTAL-01-05cHORIZONTAL-01-06cHORIZONTAL-02-00",
   "cHORIZONTAL-02-01cHORIZONTAL-02-02cHORIZONTAL-02-03cHORIZONTAL-02-04cHORIZONTAL-02-05",
   "cHORIZONTAL-02-06cHORIZONTAL-03-00cHORIZONTAL-03-01cHORIZONTAL-03-02cHORIZONTAL-03-03",
   "cHORIZONTAL-03-04cHORIZONTAL-03-05cHORIZONTAL-03-06cHORIZONTAL-04-00cHORIZONTAL-04-01",
   "cHORIZONTAL-04-02cHORIZONTAL-04-03cHORIZONTAL-04-04cHORIZONTAL-04-05cHORIZONTAL-04-06",
   "cHORIZONTAL-05-00cHORIZONTAL-05-01cHORIZONTAL-05-02cHORIZONTAL-05-03cHORIZONTAL-05-04",
   "cHORIZONTAL-05-05cHORIZONTAL-05-06cHORIZONTAL-06-00cHORIZONTAL-06-01cHORIZONTAL-06-02",
   "cHORIZONTAL-06-03cHORIZONTAL-06-04cHORIZONTAL-06-05cHORIZONTAL-06-06cVERTICAL BACK",
   "cVERTICAL-00-00cVERTICAL-00-01cVERTICAL-00-02cVERTICAL-00-03cVERTICAL-00-04cVERTICAL-00-05",
   "cVERTICAL-00-06cVERTICAL-01-00cVERTICAL-01-01cVERTICAL-01-02cVERTICAL-01-03cVERTICAL-01-04",
   "cVERTICAL-01-05cVERTICAL-01-06cVERTICAL-02-00cVERTICAL-02-01cVERTICAL-02-02cVERTICAL-02-03",
   "cVERTICAL-02-04cVERTICAL-02-05cVERTICAL-02-06cVERTICAL-03-00cVERTICAL-03-01cVERTICAL-03-02",
   "cVERTICAL-03-03cVERTICAL-03-04cVERTICAL-03-05cVERTICAL-03-06cVERTICAL-04-00cVERTICAL-04-01",
   "cVERTICAL-04-02cVERTICAL-04-03cVERTICAL-04-04cVERTICAL-04-05cVERTICAL-04-06cVERTICAL-05-00",
   "cVERTICAL-05-01cVERTICAL-05-02cVERTICAL-05-03cVERTICAL-05-04cVERTICAL-05-05cVERTICAL-05-06",
   "cVERTICAL-06-00cVERTICAL-06-01cVERTICAL-06-02cVERTICAL-06-03cVERTICAL-06-04cVERTICAL-06-05",
   "cVERTICAL-06-06aDONG SIGNaDOORaDOT ABOVEbMINUSbOPERATORbPLUSaDOTTED CIRCLEbCROSSbFENCE",
   "bLINE FACEbOBELOSbRIGHT-POINTING ANGLEbSOLIDUSbSQUAREbTRANSPOSITION MARKERaDOUBLE ACUTE ACCENT",
   "bCIRCLED DIGIT EIGHTdFIVEdFOURdNINEdONEdSEVENdSIXdTHREEdTWOcNUMBER TENbCOLON EQUALbCURLY LOOP",
   "bDAGGERbDOWN TACKbEXCLAMATION MARKbHIGH-REVERSED-9 QUOTATION MARKbHYPHENbINTEGRALbINTERSECTION",
   "bLEFT ARC GREATER-THAN BRACKETbLOGICAL ANDcORbLOW LINEbLOW-9 QUOTATION MARK",
   "bLOW-REVERSED-9 QUOTATION MARKbNESTED GREATER-THANcLESS-THANdWITH UNDERBARbOBLIQUE HYPHENbPLUS",
   "bPRECEDESbPRIMEcQUOTATION MARKbQUESTION MARKbRIGHT ARC LESS-THAN BRACKETbSOLIDUS OPERATOR",
   "bSQUARE INTERSECTIONcUNIONbSTACKED COMMAbSTROKE NOT SIGNbSUBSETbSUCCEEDSbSUPERSET",
   "bSUSPENSION MARKbUNIONbUP TACKbVERTICAL BARdDOUBLE LEFT TURNSTILEeRIGHT TURNSTILE",
   "dLEFT TURNSTILEcLINEbWAVY OVERLINEaDOUBLE-ENDED MULTIMAPaDOUBLE-LINE EQUAL TO OR GREATER-THAN",
   "eLESS-THANbSLANTED EQUAL TO OR GREATER-THANfLESS-THANcGREATER-THAN OR EQUAL TO",
   "cLESS-THAN OR EQUAL TOaDOUBLE-STRUCK CAPITAL CcGAMMAcHcNcPcPIcQcRcZbITALIC CAPITAL DcSMALL DdE",
   "dIdJbN-ARY SUMMATIONbSMALL GAMMAcPIaDOUBLED FEMALE SIGNbMALE SIGNbSYMBOLaDOUGHNUT",
   "aDOVE OF PEACEaDOWN ARROWHEADbFISH TAILbRIGHT DIAGONAL ELLIPSISbTACKcWITH CIRCLE BELOW",
   "aDOWN-POINTING RED TRIANGLEbSMALL RED TRIANGLEbTRIANGLE WITH LEFT HALF BLACKdRIGHT HALF BLACK",
   "aDOWNWARD FACING HOOKdWITH DOTcNOTCHED HOOKeWITH DOTaDOWNWARDS ANCORAbARROW",
   "cAND RIGHT ONE EIGHTH BLOCKcFROM BARcLEFTWARDS OF UPWARDS ARROWcTO BARcWITH CORNER LEFTWARDS",
   "dDOUBLE STROKEdEQUILATERAL ARROWHEADdHORIZONTAL STROKEdLARGE TRIANGLE ARROWHEAD",
   "dMEDIUM TRIANGLE ARROWHEADdNOTCHED TAILdSMALL EQUILATERAL ARROWHEADeTRIANGLE ARROWHEAD",
   "dTIP LEFTWARDSeRIGHTWARDSbBLACK ARROWcCIRCLED WHITE ARROWbCOMPRESSED ARROWbDASHED ARROW",
   "bDOUBLE ARROWbFINGER-POST ARROW",
   "bHARPOON WITH BARB LEFT BESIDE DOWNWARDS HARPOON WITH BARB RIGHT",
   "gUPWARDS HARPOON WITH BARB RIGHTfFROM BARfTO BAReLEFTWARDSeRIGHT FROM BARfTO BAReRIGHTWARDS",
   "bHEAVY ARROWcCOMPRESSED ARROWbPAIRED ARROWSbQUADRUPLE ARROWbROCKETbSANS-SERIF ARROW",
   "bSQUARED ARROWbTRIANGLE ARROWHEADbTRIANGLE-HEADED ARROW",
   "dLEFTWARDS OF UPWARDS TRIANGLE-HEADED ARROWdTO BARdWITH BOLD SHAFTeDOUBLE HORIZONTAL STROKE",
   "eHEAVY SHAFTeLONG TIP LEFTWARDSgRIGHTWARDSeMEDIUM SHAFTeNARROW SHAFTeVERY HEAVY SHAFT",
   "cDASHED ARROWcPAIRED ARROWScZIGZAG ARROWbTRIPLE ARROWbTWO HEADED ARROW",
   "bTWO-HEADED ARROW WITH TRIANGLE ARROWHEADSbWHITE ARROWdWITHIN TRIANGLE ARROWHEADbZIGZAG ARROW",
   "aDRACHMA SIGNaDRAFTING POINT RIGHTWARDS ARROWaDRAGONbFACEaDRESSaDRIVE SLOW SIGN",
   "aDROMEDARY CAMELaDROOLING FACEaDROP OF BLOODaDROPLETaDRUM WITH DRUMSTICKSaDUCKaDUMPLING",
   "aDUPLOYAN AFFIX ATTACHED E HOOKdI HOOKdLEFT-TO-RIGHT SECANTdSECANTdTAILdTANGENTeHOOK",
   "cHIGH ACUTEdCIRCLEdDOTdGRAVEdLINEdLONG GRAVEdTIGHT ACUTEdVERTICALeSECANTdWAVE",
   "cLEFT HORIZONTAL SECANTcLOW ACUTEdARROWdCIRCLEdDOTdGRAVEdLINEdLONG GRAVEdTIGHT ACUTEdVERTICAL",
   "eSECANTdWAVEcMID HORIZONTAL SECANTdVERTICAL SECANTcRIGHT HORIZONTAL SECANTbDOUBLE MARK",
   "bLETTER AcAOUcBcDdScDHcEcEEcEUcFdNcGdR ScHcHLcIcIEcJdMeSdNeSdSeWITH DOTdWITH DOT",
   "eDOTS INSIDE AND ABOVEcKdMdR ScKKcLcLHcLONG IdUcMdNeSdSdWITH DOTcNdMeSdSdWITH DOTcNASAL AdIdO",
   "dUcOcOAcOOHcOUcOWcPdNcPERNIN AMdANcRdScRHcROMANIAN IdUcSdJeSdKeRdMdNdPeRdSdTeRdWITH DOTfBELOW",
   "cSHORT IcSLOAN ANdDHdEEdEHdENdJdONdOWdUcTdR SdScTHcUdNcUHcUIcVcVOCALIC McWdRcWAcWEIcWHcWIcWO",
   "cWOWcXcXWcYEbPUNCTUATION CHINOOK FULL STOPbSIGN O WITH CROSSbTHICK LETTER SELECTORaDVD",
   "aE-MAIL SYMBOLaEAGLEaEARbOF MAIZEcRICEbWITH HEARING AIDaEARTHbGLOBE AMERICAScASIA-AUSTRALIA",
   "cEUROPE-AFRICAbGROUNDaEAST SYRIAC CROSSaEDITORIAL CORONISaEGGaEGYPTIAN HIEROGLYPH A001cA002",
   "cA003cA004cA005cA005AcA006cA006AcA006BcA007cA008cA009cA010cA011cA012cA013cA014cA014AcA015cA016",
   "cA017cA017AcA018cA019cA020cA021cA022cA023cA024cA025cA026cA027cA028cA029cA030cA031cA032cA032A",
   "cA033cA034cA035cA036cA037cA038cA039cA040cA040AcA041cA042cA042AcA043cA043AcA044cA045cA045AcA046",
   "cA047cA048cA049cA050cA051cA052cA053cA054cA055cA056cA057cA058cA059cA060cA061cA062cA063cA064",
   "cA065cA066cA067cA068cA069cA070cAA001cAA002cAA003cAA004cAA005cAA006cAA007cAA007AcAA007BcAA008",
   "cAA009cAA010cAA011cAA012cAA013cAA014cAA015cAA016cAA017cAA018cAA019cAA020cAA021cAA022cAA023",
   "cAA024cAA025cAA026cAA027cAA028cAA029cAA030cAA031cAA032cB001cB002cB003cB004cB005cB005AcB006",
   "cB007cB008cB009cBEGIN SEGMENTcC001cC002cC002AcC002BcC002CcC003cC004cC005cC006cC007cC008cC009",
   "cC010cC010AcC011cC012cC013cC014cC015cC016cC017cC018cC019cC020cC021cC022cC023cC024cD001cD002",
   "cD003cD004cD005cD006cD007cD008cD008AcD009cD010cD011cD012cD013cD014cD015cD016cD017cD018cD019",
   "cD020cD021cD022cD023cD024cD025cD026cD027cD027AcD028cD029cD030cD031cD031AcD032cD033cD034cD034A",
   "cD035cD036cD037cD038cD039cD040cD041cD042cD043cD044cD045cD046cD046AcD047cD048cD048AcD049cD050",
   "cD050AcD050BcD050CcD050DcD050EcD050FcD050GcD050HcD050IcD051cD052cD052AcD053cD054cD054AcD055",
   "cD056cD057cD058cD059cD060cD061cD062cD063cD064cD065cD066cD067cD067AcD067BcD067CcD067DcD067E",
   "cD067FcD067GcD067HcE001cE002cE003cE004cE005cE006cE007cE008cE008AcE009cE009AcE010cE011cE012",
   "cE013cE014cE015cE016cE016AcE017cE017AcE018cE019cE020cE020AcE021cE022cE023cE024cE025cE026cE027",
   "cE028cE028AcE029cE030cE031cE032cE033cE034cE034AcE036cE037cE038cEND SEGMENTcF001cF001AcF002",
   "cF003cF004cF005cF006cF007cF008cF009cF010cF011cF012cF013cF013AcF014cF015cF016cF017cF018cF019",
   "cF020cF021cF021AcF022cF023cF024cF025cF026cF027cF028cF029cF030cF031cF031AcF032cF033cF034cF035",
   "cF036cF037cF037AcF038cF038AcF039cF040cF041cF042cF043cF044cF045cF045AcF046cF046AcF047cF047A",
   "cF048cF049cF050cF051cF051AcF051BcF051CcF052cF053cG001cG002cG003cG004cG005cG006cG006AcG007",
   "cG007AcG007BcG008cG009cG010cG011cG011AcG012cG013cG014cG015cG016cG017cG018cG019cG020cG020AcG021",
   "cG022cG023cG024cG025cG026cG026AcG027cG028cG029cG030cG031cG032cG033cG034cG035cG036cG036AcG037",
   "cG037AcG038cG039cG040cG041cG042cG043cG043AcG044cG045cG045AcG046cG047cG048cG049cG050cG051cG052",
   "cG053cG054cH001cH002cH003cH004cH005cH006cH006AcH007cH008cHORIZONTAL JOINERcI001cI002cI003cI004",
   "cI005cI005AcI006cI007cI008cI009cI009AcI010cI010AcI011cI011AcI012cI013cI014cI015",
   "cINSERT AT BOTTOM ENDfSTARTeTOP ENDfSTARTcK001cK002cK003cK004cK005cK006cK007cK008cL001cL002",
   "cL002AcL003cL004cL005cL006cL006AcL007cL008cM001cM001AcM001BcM002cM003cM003AcM004cM005cM006",
   "cM007cM008cM009cM010cM010AcM011cM012cM012AcM012BcM012CcM012DcM012EcM012FcM012GcM012HcM013cM014",
   "cM015cM015AcM016cM016AcM017cM017AcM018cM019cM020cM021cM022cM022AcM023cM024cM024AcM025cM026",
   "cM027cM028cM028AcM029cM030cM031cM031AcM032cM033cM033AcM033BcM034cM035cM036cM037cM038cM039cM040",
   "cM040AcM041cM042cM043cM044cN001cN002cN003cN004cN005cN006cN007cN008cN009cN010cN011cN012cN013",
   "cN014cN015cN016cN017cN018cN018AcN018BcN019cN020cN021cN022cN023cN024cN025cN025AcN026cN027cN028",
   "cN029cN030cN031cN032cN033cN033AcN034cN034AcN035cN035AcN036cN037cN037AcN038cN039cN040cN041cN042",
   "cNL001cNL002cNL003cNL004cNL005cNL005AcNL006cNL007cNL008cNL009cNL010cNL011cNL012cNL013cNL014",
   "cNL015cNL016cNL017cNL017AcNL018cNL019cNL020cNU001cNU002cNU003cNU004cNU005cNU006cNU007cNU008",
   "cNU009cNU010cNU010AcNU011cNU011AcNU012cNU013cNU014cNU015cNU016cNU017cNU018cNU018AcNU019cNU020",
   "cNU021cNU022cNU022AcO001cO001AcO002cO003cO004cO005cO005AcO006cO006AcO006BcO006CcO006DcO006E",
   "cO006FcO007cO008cO009cO010cO010AcO010BcO010CcO011cO012cO013cO014cO015cO016cO017cO018cO019",
   "cO019AcO020cO020AcO021cO022cO023cO024cO024AcO025cO025AcO026cO027cO028cO029cO029AcO030cO030A",
   "cO031cO032cO033cO033AcO034cO035cO036cO036AcO036BcO036CcO036DcO037cO038cO039cO040cO041cO042",
   "cO043cO044cO045cO046cO047cO048cO049cO050cO050AcO050BcO051cOVERLAY MIDDLEcP001cP001AcP002cP003",
   "cP003AcP004cP005cP006cP007cP008cP009cP010cP011cQ001cQ002cQ003cQ004cQ005cQ006cQ007cR001cR002",
   "cR002AcR003cR003AcR003BcR004cR005cR006cR007cR008cR009cR010cR010AcR011cR012cR013cR014cR015cR016",
   "cR016AcR017cR018cR019cR020cR021cR022cR023cR024cR025cR026cR027cR028cR029cS001cS002cS002AcS003",
   "cS004cS005cS006cS006AcS007cS008cS009cS010cS011cS012cS013cS014cS014AcS014BcS015cS016cS017cS017A",
   "cS018cS019cS020cS021cS022cS023cS024cS025cS026cS026AcS026BcS027cS028cS029cS030cS031cS032cS033",
   "cS034cS035cS035AcS036cS037cS038cS039cS040cS041cS042cS043cS044cS045cS046cT001cT002cT003cT003A",
   "cT004cT005cT006cT007cT007AcT008cT008AcT009cT009AcT010cT011cT011AcT012cT013cT014cT015cT016",
   "cT016AcT017cT018cT019cT020cT021cT022cT023cT024cT025cT026cT027cT028cT029cT030cT031cT032cT032A",
   "cT033cT033AcT034cT035cT036cU001cU002cU003cU004cU005cU006cU006AcU006BcU007cU008cU009cU010cU011",
   "cU012cU013cU014cU015cU016cU017cU018cU019cU020cU021cU022cU023cU023AcU024cU025cU026cU027cU028",
   "cU029cU029AcU030cU031cU032cU032AcU033cU034cU035cU036cU037cU038cU039cU040cU041cU042cV001cV001A",
   "cV001BcV001CcV001DcV001EcV001FcV001GcV001HcV001IcV002cV002AcV003cV004cV005cV006cV007cV007A",
   "cV007BcV008cV009cV010cV011cV011AcV011BcV011CcV012cV012AcV012BcV013cV014cV015cV016cV017cV018",
   "cV019cV020cV020AcV020BcV020CcV020DcV020EcV020FcV020GcV020HcV020IcV020JcV020KcV020LcV021cV022",
   "cV023cV023AcV024cV025cV026cV027cV028cV028AcV029cV029AcV030cV030AcV031cV031AcV032cV033cV033A",
   "cV034cV035cV036cV037cV037AcV038cV039cV040cV040AcVERTICAL JOINERcW001cW002cW003cW003AcW004cW005",
   "cW006cW007cW008cW009cW009AcW010cW010AcW011cW012cW013cW014cW014AcW015cW016cW017cW017AcW018",
   "cW018AcW019cW020cW021cW022cW023cW024cW024AcW025cX001cX002cX003cX004cX004AcX004BcX005cX006",
   "cX006AcX007cX008cX008AcY001cY001AcY002cY003cY004cY005cY006cY007cY008cZ001cZ002cZ002AcZ002B",
   "cZ002CcZ002DcZ003cZ003AcZ003BcZ004cZ004AcZ005cZ005AcZ006cZ007cZ008cZ009cZ010cZ011cZ012cZ013",
   "cZ014cZ015cZ015AcZ015BcZ015CcZ015DcZ015EcZ015FcZ015GcZ015HcZ015IcZ016cZ016AcZ016BcZ016CcZ016D",
   "cZ016EcZ016FcZ016GcZ016HaEIGHT PETALLED OUTLINED BLACK FLORETTEbPOINTED BLACK STAR",
   "cPINWHEEL STARcRECTILINEAR BLACK STARbSPOKED ASTERISKbTEARDROP-SPOKED PROPELLER ASTERISK",
   "aEIGHTH NOTEaEJECT SYMBOLaELBASAN LETTER AcBEcCEcCHEcDEcDHEcEcEIcFEcGEcGHAMMAcGHEcGJEcHEcIcJE",
   "cKEcKHEcLEcLLEcMEcNAcNDEcNEcNJEcOcPEcQEcREcRREcSEcSHEcTEcTHEcUcVEcXEcYcZEcZHEaELECTRIC ARROW",
   "bLIGHT BULBbPLUGbTORCHaELECTRICAL INTERSECTIONaELEMENT OFcOPENING DOWNWARDSdUPWARDS",
   "cWITH DOT ABOVEdLONG HORIZONTAL STROKEdOVERBARdTWO HORIZONTAL STROKESdUNDERBAR",
   "dVERTICAL BAR AT END OF HORIZONTAL STROKEaELEPHANTaELEVATORaELFaELYMAIC LETTER ALEPHcAYINcBETH",
   "cDALETHcGIMELcHEcHETHcKAPHcLAMEDHcMEMcNUNcPEcQOPHcRESHcSADHEcSAMEKHcSHINcTAWcTETHcWAWcYODH",
   "cZAYINbLIGATURE ZAYIN-YODHaEM DASHbQUADbSPACEaEMOJI COMPONENT BALDcCURLY HAIRcRED HAIR",
   "cWHITE HAIRbMODIFIER FITZPATRICK TYPE-1-2dTYPE-3dTYPE-4dTYPE-5dTYPE-6aEMPHASIS SYMBOL",
   "aEMPTY DOCUMENTbNESTbNOTEcPADcPAGEbPAGEbPAGESbSETcWITH LEFT ARROW ABOVEdOVERBAR",
   "dRIGHT ARROW ABOVEdSMALL CIRCLE ABOVEaEN DASHbQUADbSPACEaEND OF GUARDED AREAcLINEcMEDIUMcPROOF",
   "cPROTECTED AREAcSELECTED AREAcTEXTcTRANSMISSIONdBLOCKbWITH LEFTWARDS ARROW ABOVEaENQaENQUIRY",
   "aENTER SYMBOLaENVELOPEbWITH DOWNWARDS ARROW ABOVEcLIGHTNINGaEOLaEOMaEOTaEPA",
   "aEQUAL AND PARALLEL TObTO BY DEFINITIONcOR GREATER-THANdLESS-THANdPRECEDESdSUCCEEDS",
   "aEQUALS COLONbSIGNcABOVE LEFTWARDS ARROWdPLUS SIGNdRIGHTWARDS ARROWdTILDE OPERATOR",
   "cAND SLANTED PARALLELfWITH TILDE ABOVEcWITH BUMPY ABOVEdDOT BELOWdINFINITY BELOW",
   "dTWO DOTS ABOVE AND TWO DOTS BELOWbWITH ASTERISKaEQUIANGULAR TOaEQUIVALENT TO",
   "bWITH FOUR DOTS ABOVEaERASE TO THE LEFTdRIGHTaERIS FORM ONEcTWOaERROR-BARRED BLACK CIRCLE",
   "cDIAMONDcSQUAREbWHITE CIRCLEcDIAMONDcSQUAREaESAaESCaESCAPEaESTIMATED SYMBOLaESTIMATESaETB",
   "aETHIOPIC COLONbCOMBINING GEMINATION AND VOWEL LENGTH MARKdMARKcVOWEL LENGTH MARKbCOMMA",
   "bDIGIT EIGHTcFIVEcFOURcNINEcONEcSEVENcSIXcTHREEcTWObFULL STOPbNUMBER EIGHTYcFIFTYcFORTY",
   "cHUNDREDcNINETYcSEVENTYcSIXTYcTENdTHOUSANDcTHIRTYcTWENTYbPARAGRAPH SEPARATORbPREFACE COLON",
   "bQUESTION MARKbSECTION MARKbSEMICOLONbSYLLABLE BAcBAAcBBAcBBAAcBBEcBBEEcBBIcBBOcBBUcBEcBEEcBI",
   "cBOcBOAcBUcBWAcBWEcBWEEcBWIcCAcCAAcCCAcCCAAcCCEcCCEEcCCHAcCCHAAcCCHEcCCHEEcCCHHAcCCHHAAcCCHHE",
   "cCCHHEEcCCHHIcCCHHOcCCHHUcCCHIcCCHOcCCHUcCCIcCCOcCCUcCEcCEEcCHAcCHAAcCHEcCHEEcCHIcCHOcCHOAcCHU",
   "cCHWAcCIcCOcCOAcCUcCWAcDAcDAAcDDAcDDAAcDDEcDDEEcDDHAAcDDHEcDDHEEcDDHIcDDHOcDDHUcDDIcDDOcDDOA",
   "cDDUcDDWAcDEcDEEcDIcDOcDOAcDUcDWAcDZAAcDZEcDZEEcDZIcDZOcDZUcFAcFAAcFEcFEEcFIcFOcFUcFWAcFWE",
   "cFWEEcFWIcFYAcGAcGAAcGEcGEEcGGAcGGAAcGGEcGGEEcGGIcGGOcGGUcGGWAcGGWAAcGGWEcGGWEEcGGWIcGI",
   "cGLOTTAL AdAAdEdEEdIdOdOAdUdWAcGOcGOAcGUcGURAGE BWEEdBWIdFWEEdFWIdGWEdGWEEdGWIdHHWAdKWEdKWEE",
   "dKWIdMWEEdMWIdPWEEdPWIdQWEdQWEEdQWIcGWAcGWAAcGWEcGWEEcGWIcGYAcGYAAcGYEcGYEEcGYIcGYOcGYUcHAcHAA",
   "cHEcHEEcHHAcHHAAcHHEcHHEEcHHIcHHOcHHUcHHWAcHHWEcHHWEEcHHWIcHHYAcHHYAAcHHYEcHHYEEcHHYIcHHYO",
   "cHHYUcHIcHOcHOAcHUcJAcJAAcJEcJEEcJIcJOcJOAcJUcJWAcKAcKAAcKEcKEEcKIcKOcKOAcKUcKWAcKWAAcKWEcKWEE",
   "cKWIcKXAcKXAAcKXEcKXEEcKXIcKXOcKXUcKXWAcKXWAAcKXWEcKXWEEcKXWIcKYAcKYAAcKYEcKYEEcKYIcKYOcKYUcLA",
   "cLAAcLEcLEEcLIcLOcLOAcLUcLWAcMAcMAAcMEcMEEcMIcMOcMOAcMUcMWAcMWEcMWEEcMWIcMYAcNAcNAAcNEcNEEcNI",
   "cNOcNOAcNUcNWAcNYAcNYAAcNYEcNYEEcNYIcNYOcNYOAcNYUcNYWAcPAcPAAcPEcPEEcPHAcPHAAcPHARYNGEAL AdAA",
   "dEdEEdIdOdUcPHEcPHEEcPHIcPHOcPHOAcPHUcPHWAcPIcPOcPOAcPUcPWAcPWEcPWEEcPWIcQAcQAAcQEcQEEcQHA",
   "cQHAAcQHEcQHEEcQHIcQHOcQHUcQHWAcQHWAAcQHWEcQHWEEcQHWIcQIcQOcQOAcQUcQWAcQWAAcQWEcQWEEcQWIcQYA",
   "cQYAAcQYEcQYEEcQYIcQYOcQYUcRAcRAAcREcREEcRIcROcROAcRUcRWAcRYAcSAcSAAcSEcSEBATBEIT BWAdFWAdMWA",
   "dPWAcSEEcSHAcSHAAcSHEcSHEEcSHIcSHOcSHOAcSHUcSHWAcSIcSOcSOAcSSAcSSAAcSSEcSSEEcSSIcSSOcSSUcSU",
   "cSWAcSZAcSZAAcSZEcSZEEcSZIcSZOcSZUcSZWAcTAcTAAcTEcTEEcTHAcTHAAcTHEcTHEEcTHIcTHOcTHOAcTHUcTHWA",
   "cTIcTOcTOAcTSAcTSAAcTSEcTSEEcTSIcTSOcTSUcTSWAcTTHAAcTTHEcTTHEEcTTHIcTTHOcTTHUcTUcTWAcTZAcTZAA",
   "cTZEcTZEEcTZIcTZOcTZOAcTZUcVAcVAAcVEcVEEcVIcVOcVUcVWAcWAcWAAcWEcWEEcWIcWOcWOAcWUcXAcXAAcXEcXEE",
   "cXIcXOcXOAcXUcXWAcXWAAcXWEcXWEEcXWIcXYAcXYAAcXYEcXYEEcXYIcXYOcXYUcYAcYAAcYEcYEEcYIcYOcYOAcYU",
   "cZAcZAAcZEcZEEcZHAcZHAAcZHEcZHEEcZHIcZHOcZHUcZHWAcZIcZOcZOAcZUcZWAcZZAcZZAAcZZEcZZEEcZZIcZZO",
   "cZZUbTONAL MARK CHIRETdDERETdDERET-HIDETdDIFATdHIDETdKENATdKURTdRIKRIKdSHORT RIKRIKdYIZET",
   "bWORDSPACEaETXaEULER CONSTANTaEURO SIGNaEURO-CURRENCY SIGNaEUROPEAN CASTLEbPOST OFFICE",
   "aEVERGREEN TREEaEXCESSaEXCLAMATION MARKbQUESTION MARKaEXPRESSIONLESS FACE",
   "aEXTENDED ARABIC-INDIC DIGIT EIGHTdFIVEdFOURdNINEdONEdSEVENdSIXdTHREEdTWOdZERO",
   "aEXTRATERRESTRIAL ALIENaEXTREMELY HEAVY FIVE SPOKED ASTERISKcGREEK CROSScSALTIRE",
   "cSIX SPOKED ASTERISKcWHITE CIRCLEdSQUAREaEYEaEYEGLASSESaEYESaFACE HOLDING BACK TEARSbMASSAGE",
   "bPALMbSAVOURING DELICIOUS FOODbSCREAMING IN FEARbTHROWING A KISSbWITH COLD SWEATcCOWBOY HAT",
   "cDIAGONAL MOUTHcFINGER COVERING CLOSED LIPScHEAD-BANDAGEcLOOK OF TRIUMPHcMEDICAL MASKcMONOCLE",
   "cNO GOOD GESTUREcOK GESTUREcONE EYEBROW RAISEDcOPEN EYES AND HAND OVER MOUTHdMOUTH",
   "eAND COLD SWEATeVOMITINGcPARTY HORN AND PARTY HATcPEEKING EYEcPLEADING EYEScROLLING EYES",
   "cSTUCK-OUT TONGUEeAND TIGHTLY-CLOSED EYESfWINKING EYEcTEARS OF JOYcTHERMOMETER",
   "cUNEVEN EYES AND WAVY MOUTHbWITHOUT MOUTHaFACSIMILE SIGNaFACTORYaFAIRYaFALAFELaFALLEN LEAF",
   "aFALLING DIAGONAL CROSSING NORTH EAST ARROWdRISING DIAGONALcIN WHITE CIRCLE IN BLACK SQUARE",
   "aFAMILYaFARSI SYMBOLaFATHER CHRISTMASaFAX ICONbMACHINEaFEARFUL FACEaFEATHERaFEMALE SIGN",
   "aFEMININE ORDINAL INDICATORaFENCERaFERRIS WHEELaFERRYaFFaFIELD HOCKEY STICK AND BALL",
   "aFIGURE DASHbSPACEaFILE CABINETbFOLDERbSEPARATORaFILM FRAMESbPROJECTORaFINITE PART INTEGRAL",
   "aFIREbENGINEbEXTINGUISHERaFIRECRACKERaFIREWORK SPARKLERaFIREWORKSaFIRST PLACE MEDAL",
   "bQUARTER MOONdSYMBOLdWITH FACEbSTRONG ISOLATEaFISHbCAKE WITH SWIRL DESIGNaFISHEYE",
   "aFISHING POLE AND FISHaFISTED HAND SIGNaFIVE DOT MARKcPUNCTUATIONaFLAG IN HOLEaFLAMINGO",
   "aFLAT SHOEaFLATBREADaFLATNESSaFLEUR-DE-LISaFLEXED BICEPSaFLOPPY DISKaFLORAL HEARTaFLOWER",
   "bPLAYING CARDSbPUNCTUATION MARKaFLUSHED FACEaFLYaFLYING DISCbENVELOPEbSAUCERaFOGaFOGGYaFOLDER",
   "aFONDUEaFOOTaFOOTPRINTSaFOR ALLaFORCESaFORK AND KNIFEdWITH PLATEaFORKED PARAGRAPHOSaFORKING",
   "aFORM FEEDaFORTUNE COOKIEaFOUNTAINaFOUR BALLOON-SPOKED ASTERISKbCLUB-SPOKED ASTERISK",
   "bCORNER ARROWS CIRCLING ANTICLOCKWISEbDOT MARKcPUNCTUATIONbLEAF CLOVERbPOINTED BLACK STAR",
   "bTEARDROP-SPOKED ASTERISKaFOUR-PER-EM SPACEaFOURTH ROOTaFOX FACEaFRACTION NUMERATOR ONEbSLASH",
   "aFRAME WITH AN XcPICTUREcTILESaFREEZING FACEaFRENCH FRANC SIGNbFRIESaFRIED SHRIMPaFROG FACE",
   "aFRONT-FACING BABY CHICKaFRONT-TILTED SHADOWED WHITE RIGHTWARDS ARROWaFROWN",
   "aFROWNING FACE WITH OPEN MOUTHaFSaFSIaFUEL PUMPaFULL BLOCKbMOON SYMBOLcWITH FACEbOUTER JOIN",
   "bSTOPaFULLWIDTH AMPERSANDbAPOSTROPHEbASTERISKbBROKEN BARbCENT SIGNbCIRCUMFLEX ACCENTbCOLON",
   "bCOMMAbCOMMERCIAL ATbDIGIT EIGHTcFIVEcFOURcNINEcONEcSEVENcSIXcTHREEcTWOcZERObDOLLAR SIGN",
   "bEQUALS SIGNbEXCLAMATION MARKbFULL STOPbGRAVE ACCENTbGREATER-THAN SIGNbHYPHEN-MINUS",
   "bLATIN CAPITAL LETTER AeBeCeDeEeFeGeHeIeJeKeLeMeNeOePeQeReSeTeUeVeWeXeYeZcSMALL LETTER AeBeCeD",
   "eEeFeGeHeIeJeKeLeMeNeOePeQeReSeTeUeVeWeXeYeZbLEFT CURLY BRACKETcPARENTHESIScSQUARE BRACKET",
   "cWHITE PARENTHESISbLESS-THAN SIGNbLOW LINEbMACRONbNOT SIGNbNUMBER SIGNbPERCENT SIGNbPLUS SIGN",
   "bPOUND SIGNbQUESTION MARKbQUOTATION MARKbREVERSE SOLIDUSbRIGHT CURLY BRACKETcPARENTHESIS",
   "cSQUARE BRACKETcWHITE PARENTHESISbSEMICOLONbSOLIDUSbTILDEbVERTICAL LINEbWON SIGNbYEN SIGN",
   "aFUNCTION APPLICATIONaFUNERAL URNaFUSEaFVS1aFVS2aFVS3aFVS4aGAME DIEaGARLICaGEARbWITH HANDLES",
   "bWITHOUT HUBaGEM STONEaGEMINIaGENIEaGEOMETRIC PROPORTIONaGEOMETRICALLY EQUAL TObEQUIVALENT TO",
   "aGEORGIAN CAPITAL LETTER AENdANdBANdCANdCHARdCHINdCILdDONdENdGANdGHANdHAEdHARdHEdHIEdHOEdIN",
   "dJHANdJILdKANdKHARdLASdMANdNARdONdPARdPHARdQARdRAEdSANdSHINdTANdTARdUNdVINdWEdXANdYNdZENdZHAR",
   "bLETTER AENcAINcANcBANcCANcCHARcCHINcCILcDONcELIFIcENcFIcGANcGHANcHAEcHARcHARD SIGNcHEcHIEcHOE",
   "cINcJHANcJILcKANcKHARcLABIAL SIGNcLAScMANcNARcONcPARcPHARcQARcRAEcSANcSHINcTANcTARcTURNED GAN",
   "cUNcVINcWEcXANcYNcZENcZHARbMTAVRULI CAPITAL LETTER AENeAINeANeBANeCANeCHAReCHINeCILeDONeELIFI",
   "eENeFIeGANeGHANeHAEeHAReHARD SIGNeHEeHIEeHOEeINeJHANeJILeKANeKHAReLABIAL SIGNeLASeMANeNAReON",
   "ePARePHAReQAReRAEeSANeSHINeTANeTAReTURNED GANeUNeVINeWEeXANeYNeZENeZHARbPARAGRAPH SEPARATOR",
   "bSMALL LETTER AENdANdBANdCANdCHARdCHINdCILdDONdENdGANdGHANdHAEdHARdHEdHIEdHOEdINdJHANdJILdKAN",
   "dKHARdLASdMANdNARdONdPARdPHARdQARdRAEdSANdSHINdTANdTARdUNdVINdWEdXANdYNdZENdZHAR",
   "aGERMAN PENNY SIGNaGETA MARKaGHOSTaGIMEL SYMBOLaGIRAFFE FACEaGIRLaGIRLS SYMBOL",
   "aGLAGOLITIC CAPITAL LETTER AZUdBIG YUSdBUKYdCAUDATE CHRIVIdCHRIVIdDJERVIdDOBROdDZELOdFITA",
   "dFRITUdGLAGOLIdHERUdIdINITIAL IZHEdIOTATED BIG YUSeSMALL YUSdIZHEdIZHITSAdKAKO",
   "dLATINATE MYSLITEdLJUDIJEdMYSLITEdNASHIdONUdOTUdPEdPOKOJIdRITSIdSHAdSHTAdSHTAPICdSLOVO",
   "dSMALL YUSfWITH TAILdSPIDERY HAdTROKUTASTI AdTSIdTVRIDOdUKUdVEDEdYATIdYERIdYERUdYESTUdYOdYU",
   "dZEMLJAdZHIVETEbSMALL LETTER AZUdBIG YUSdBUKYdCAUDATE CHRIVIdCHRIVIdDJERVIdDOBROdDZELOdFITA",
   "dFRITUdGLAGOLIdHERUdIdINITIAL IZHEdIOTATED BIG YUSeSMALL YUSdIZHEdIZHITSAdKAKO",
   "dLATINATE MYSLITEdLJUDIJEdMYSLITEdNASHIdONUdOTUdPEdPOKOJIdRITSIdSHAdSHTAdSHTAPICdSLOVO",
   "dSMALL YUSfWITH TAILdSPIDERY HAdTROKUTASTI AdTSIdTVRIDOdUKUdVEDEdYATIdYERIdYERUdYESTUdYOdYU",
   "dZEMLJAdZHIVETEaGLASS OF MILKaGLEICH STARKaGLOBE WITH MERIDIANSaGLOVESaGLOWING STARaGOAL NET",
   "aGOATaGOGGLESaGOLFERaGORILLAaGOTHIC LETTER AHSAcAIHVUScBAIRKANcDAGScEIScFAIHUcGIBAcHAGLcHWAIR",
   "cIGGWScIUJAcJERcKUSMAcLAGUScMANNAcNAUTHScNINE HUNDREDcNINETYcOTHALcPAIRTHRAcQAIRTHRAcRAIDA",
   "cSAUILcTEIWScTHIUTHcURUScWINJAaGRADUATION CAPaGRANTHA AU LENGTH MARKbLETTER AcAAcAIcAUcBAcBHA",
   "cCAcCHAcDAcDDAcDDHAcDHAcEEcGAcGHAcHAcIcIIcJAcJHAcKAcKHAcLAcLLAcMAcNAcNGAcNNAcNYAcOOcPAcPHAcRA",
   "cSAcSHAcSSAcTAcTHAcTTAcTTHAcUcUUcVAcVEDIC ANUSVARAdDOUBLE ANUSVARAcVOCALIC LdLLdRdRRcYAbOM",
   "bSIGN ANUSVARAcAVAGRAHAcCANDRABINDUcCOMBINING ANUSVARA ABOVEcNUKTAcPLUTAcVIRAMAcVISARGA",
   "bVOWEL SIGN AAdAIdAUdEEdIdIIdOOdUdUUdVOCALIC LeLLeReRRaGRAPESaGRAVE ACCENT",
   "aGREATER-THAN ABOVE DOUBLE-LINE EQUAL ABOVE LESS-THANcLESS-THAN ABOVE DOUBLE-LINE EQUAL",
   "cRIGHTWARDS ARROWcSIMILAR ABOVE LESS-THANdOR EQUAL",
   "cSLANTED EQUAL ABOVE LESS-THAN ABOVE SLANTED EQUALbAND NOT APPROXIMATE",
   "cSINGLE-LINE NOT EQUAL TObBESIDE LESS-THANbBUT NOT EQUAL TOdEQUIVALENT TObCLOSED BY CURVE",
   "eABOVE SLANTED EQUALbEQUAL TO OR LESS-THANbOR APPROXIMATEcEQUAL TOcEQUIVALENT TOcLESS-THAN",
   "cSLANTED EQUAL TOfWITH DOT ABOVEiLEFThINSIDEbOVER EQUAL TObOVERLAPPING LESS-THANbSIGN",
   "bWITH CIRCLE INSIDEcDOTcQUESTION MARK ABOVEaGREEK ACROPHONIC ATTIC FIFTYeSTATERSeTALENTS",
   "eTHOUSANDfSTATERSdFIVEeHUNDREDfSTATERSfTALENTSeSTATERSeTALENTSeTHOUSANDfTALENTSdONE DRACHMA",
   "eHALFeHUNDRED STATERSfTALENTSeQUARTEReTHOUSAND STATERSfTALENTSdTEN MNASeSTATERSeTALENTS",
   "eTHOUSAND STATERScCARYSTIAN FIVE HUNDREDcCYRENAIC TWO DRACHMAScDELPHIC FIVE MNAS",
   "cEPIDAUREAN FIVE HUNDREDdTWOeDRACHMAScHERAEUM ONE PLETHRONcHERMIONIAN FIFTYdONEdTEN",
   "cMESSENIAN TENcNAXIAN FIVE HUNDREDcSTRATIAN FIFTY MNAScTHESPIAN FIFTYdFIVE HUNDREDeTHOUSAND",
   "dONEeHUNDREDeTHOUSANDdTENdTHIRTYdTHREE HUNDREDdTWOcTROEZENIAN FIFTYeALTERNATE FORMdFIVE",
   "eHUNDREDdTENeALTERNATE FORMbANO TELEIAbAROURA SIGNbARTABE SIGNbBETA SYMBOL",
   "bCAPITAL DOTTED LUNATE SIGMA SYMBOLcKAI SYMBOLcLETTER ALPHAeWITH DASIAgAND OXIA",
   "iAND PROSGEGRAMMENIhPERISPOMENIiAND PROSGEGRAMMENIhPROSGEGRAMMENIhVARIAiAND PROSGEGRAMMENI",
   "fMACRONfOXIAfPROSGEGRAMMENIfPSILIgAND OXIAiAND PROSGEGRAMMENIhPERISPOMENIiAND PROSGEGRAMMENI",
   "hPROSGEGRAMMENIhVARIAiAND PROSGEGRAMMENIfTONOSfVARIAfVRACHYdARCHAIC SAMPIdBETAdCHIdDELTA",
   "dEPSILONeWITH DASIAgAND OXIAhVARIAfOXIAfPSILIgAND OXIAhVARIAfTONOSfVARIAdETAeWITH DASIA",
   "gAND OXIAiAND PROSGEGRAMMENIhPERISPOMENIiAND PROSGEGRAMMENIhPROSGEGRAMMENIhVARIA",
   "iAND PROSGEGRAMMENIfOXIAfPROSGEGRAMMENIfPSILIgAND OXIAiAND PROSGEGRAMMENIhPERISPOMENI",
   "iAND PROSGEGRAMMENIhPROSGEGRAMMENIhVARIAiAND PROSGEGRAMMENIfTONOSfVARIAdGAMMAdHETAdIOTA",
   "eWITH DASIAgAND OXIAhPERISPOMENIhVARIAfDIALYTIKAfMACRONfOXIAfPSILIgAND OXIAhPERISPOMENIhVARIA",
   "fTONOSfVARIAfVRACHYdKAPPAdLAMDAdMUdNUdOMEGAeWITH DASIAgAND OXIAiAND PROSGEGRAMMENIhPERISPOMENI",
   "iAND PROSGEGRAMMENIhPROSGEGRAMMENIhVARIAiAND PROSGEGRAMMENIfOXIAfPROSGEGRAMMENIfPSILIgAND OXIA",
   "iAND PROSGEGRAMMENIhPERISPOMENIiAND PROSGEGRAMMENIhPROSGEGRAMMENIhVARIAiAND PROSGEGRAMMENI",
   "fTONOSfVARIAdOMICRONeWITH DASIAgAND OXIAhVARIAfOXIAfPSILIgAND OXIAhVARIAfTONOSfVARIA",
   "dPAMPHYLIAN DIGAMMAdPHIdPIdPSIdRHOeWITH DASIAdSANdSHOdSIGMAdTAUdTHETAdUPSILONeWITH DASIA",
   "gAND OXIAhPERISPOMENIhVARIAfDIALYTIKAfMACRONfOXIAfTONOSfVARIAfVRACHYdXIdYOTdZETA",
   "cLUNATE SIGMA SYMBOLcREVERSED DOTTED LUNATE SIGMA SYMBOLdLUNATE SIGMA SYMBOLcTHETA SYMBOL",
   "bDASIAcAND OXIAdPERISPOMENIdVARIAbDIALYTIKA AND OXIAdPERISPOMENIdVARIAcTONOSbDRACHMA SIGN",
   "bFIVE OBOLS SIGNbFOUR OBOLS SIGNbGRAMMA SIGNbINDICTION SIGNbINSTRUMENTAL NOTATION SYMBOL-1",
   "dSYMBOL-11dSYMBOL-12dSYMBOL-13dSYMBOL-14dSYMBOL-17dSYMBOL-18dSYMBOL-19dSYMBOL-2dSYMBOL-23",
   "dSYMBOL-24dSYMBOL-25dSYMBOL-26dSYMBOL-27dSYMBOL-29dSYMBOL-30dSYMBOL-32dSYMBOL-36dSYMBOL-37",
   "dSYMBOL-38dSYMBOL-39dSYMBOL-4dSYMBOL-40dSYMBOL-42dSYMBOL-43dSYMBOL-45dSYMBOL-47dSYMBOL-48",
   "dSYMBOL-49dSYMBOL-5dSYMBOL-50dSYMBOL-51dSYMBOL-52dSYMBOL-53dSYMBOL-54dSYMBOL-7dSYMBOL-8",
   "bKAI SYMBOLbKAPPA SYMBOLbKORONISbKYATHOS BASE SIGNbLETTER ARCHAIC KOPPAcDIGAMMAcKOPPAcSAMPI",
   "cSMALL CAPITAL GAMMAeLAMDAeOMEGAePIePSIeRHOcSTIGMAcYOTbLITRA SIGNbLOWER NUMERAL SIGN",
   "bLUNATE EPSILON SYMBOLcSIGMA SYMBOLbMETRETES SIGNbMUSICAL LEIMMAbNUMERAL SIGNbOBOL SIGN",
   "bONE HALF SIGNeALTERNATE FORMcQUARTER SIGNbOUNKIA SIGNbOXIAbPERISPOMENIbPHI SYMBOLbPI SYMBOL",
   "bPROSGEGRAMMENIbPSILIcAND OXIAdPERISPOMENIdVARIAbQUESTION MARKbREVERSED LUNATE EPSILON SYMBOL",
   "bRHO SYMBOLcWITH STROKE SYMBOLbSINUSOID SIGNbSMALL DOTTED LUNATE SIGMA SYMBOLcLETTER ALPHA",
   "eWITH DASIAgAND OXIAiAND YPOGEGRAMMENIhPERISPOMENIiAND YPOGEGRAMMENIhVARIAiAND YPOGEGRAMMENI",
   "hYPOGEGRAMMENIfMACRONfOXIAgAND YPOGEGRAMMENIfPERISPOMENIgAND YPOGEGRAMMENIfPSILIgAND OXIA",
   "iAND YPOGEGRAMMENIhPERISPOMENIiAND YPOGEGRAMMENIhVARIAiAND YPOGEGRAMMENIhYPOGEGRAMMENIfTONOS",
   "fVARIAgAND YPOGEGRAMMENIfVRACHYfYPOGEGRAMMENIdARCHAIC KOPPAeSAMPIdBETAdCHIdDELTAdDIGAMMA",
   "dEPSILONeWITH DASIAgAND OXIAhVARIAfOXIAfPSILIgAND OXIAhVARIAfTONOSfVARIAdETAeWITH DASIA",
   "gAND OXIAiAND YPOGEGRAMMENIhPERISPOMENIiAND YPOGEGRAMMENIhVARIAiAND YPOGEGRAMMENI",
   "hYPOGEGRAMMENIfOXIAgAND YPOGEGRAMMENIfPERISPOMENIgAND YPOGEGRAMMENIfPSILIgAND OXIA",
   "iAND YPOGEGRAMMENIhPERISPOMENIiAND YPOGEGRAMMENIhVARIAiAND YPOGEGRAMMENIhYPOGEGRAMMENIfTONOS",
   "fVARIAgAND YPOGEGRAMMENIfYPOGEGRAMMENIdFINAL SIGMAdGAMMAdHETAdIOTAeWITH DASIAgAND OXIA",
   "hPERISPOMENIhVARIAfDIALYTIKAgAND OXIAhPERISPOMENIhTONOShVARIAfMACRONfOXIAfPERISPOMENIfPSILI",
   "gAND OXIAhPERISPOMENIhVARIAfTONOSfVARIAfVRACHYdKAPPAdKOPPAdLAMDAdMUdNUdOMEGAeWITH DASIA",
   "gAND OXIAiAND YPOGEGRAMMENIhPERISPOMENIiAND YPOGEGRAMMENIhVARIAiAND YPOGEGRAMMENI",
   "hYPOGEGRAMMENIfOXIAgAND YPOGEGRAMMENIfPERISPOMENIgAND YPOGEGRAMMENIfPSILIgAND OXIA",
   "iAND YPOGEGRAMMENIhPERISPOMENIiAND YPOGEGRAMMENIhVARIAiAND YPOGEGRAMMENIhYPOGEGRAMMENIfTONOS",
   "fVARIAgAND YPOGEGRAMMENIfYPOGEGRAMMENIdOMICRONeWITH DASIAgAND OXIAhVARIAfOXIAfPSILIgAND OXIA",
   "hVARIAfTONOSfVARIAdPAMPHYLIAN DIGAMMAdPHIdPIdPSIdRHOeWITH DASIAfPSILIdSAMPIdSANdSHOdSIGMA",
   "dSTIGMAdTAUdTHETAdUPSILONeWITH DASIAgAND OXIAhPERISPOMENIhVARIAfDIALYTIKAgAND OXIAhPERISPOMENI",
   "hTONOShVARIAfMACRONfOXIAfPERISPOMENIfPSILIgAND OXIAhPERISPOMENIhVARIAfTONOSfVARIAfVRACHYdXI",
   "dZETAcREVERSED DOTTED LUNATE SIGMA SYMBOLdLUNATE SIGMA SYMBOLbSUBSCRIPT SMALL LETTER BETAeCHI",
   "eGAMMAePHIeRHObSYMBOL TAU RHObTALENT SIGNbTHETA SYMBOLbTHREE OBOLS SIGNcQUARTERS SIGNbTONOS",
   "bTRYBLION BASE SIGNbTWO OBOLS SIGNcTHIRDS SIGNbUPSILON WITH ACUTE AND HOOK SYMBOL",
   "dDIAERESIS AND HOOK SYMBOLdHOOK SYMBOLbVARIAbVOCAL NOTATION SYMBOL-1dSYMBOL-10dSYMBOL-11",
   "dSYMBOL-12dSYMBOL-13dSYMBOL-14dSYMBOL-15dSYMBOL-16dSYMBOL-17dSYMBOL-18dSYMBOL-19dSYMBOL-2",
   "dSYMBOL-20dSYMBOL-21dSYMBOL-22dSYMBOL-23dSYMBOL-24dSYMBOL-3dSYMBOL-4dSYMBOL-5dSYMBOL-50",
   "dSYMBOL-51dSYMBOL-52dSYMBOL-53dSYMBOL-54dSYMBOL-6dSYMBOL-7dSYMBOL-8dSYMBOL-9bXESTES SIGN",
   "bYEAR SIGNbYPOGEGRAMMENIbZERO SIGNaGREEN APPLEbBOOKbHEARTbSALADaGRIMACING FACE",
   "aGRINNING CAT FACE WITH SMILING EYESbFACEcWITH ONE LARGE AND ONE SMALL EYEdSMILING EYES",
   "dSTAR EYESaGROUP MARKbSEPARATORaGROWING HEARTaGSaGUARANI SIGNaGUARDSMANaGUIDE DOGaGUITAR",
   "aGUJARATI ABBREVIATION SIGNbDIGIT EIGHTcFIVEcFOURcNINEcONEcSEVENcSIXcTHREEcTWOcZERObLETTER A",
   "cAAcAIcAUcBAcBHAcCAcCHAcDAcDDAcDDHAcDHAcEcGAcGHAcHAcIcIIcJAcJHAcKAcKHAcLAcLLAcMAcNAcNGAcNNA",
   "cNYAcOcPAcPHAcRAcSAcSHAcSSAcTAcTHAcTTAcTTHAcUcUUcVAcVOCALIC LdLLdRdRRcYAcZHAbOMbRUPEE SIGN",
   "bSIGN ANUSVARAcAVAGRAHAcCANDRABINDUcCIRCLE NUKTA ABOVEcMADDAHcNUKTAcSHADDAcSUKUN",
   "cTHREE-DOT NUKTA ABOVEcTWO-CIRCLE NUKTA ABOVEcVIRAMAcVISARGAbVOWEL CANDRA EdOcSIGN AAdAIdAU",
   "dCANDRA EeOdEdIdIIdOdUdUUdVOCALIC LeLLeReRRaGUNJALA GONDI DIGIT EIGHTdFIVEdFOURdNINEdONEdSEVEN",
   "dSIXdTHREEdTWOdZEROcLETTER AdAAdAIdAUdBAdBHAdCAdCHAdDAdDDAdDDHAdDHAdEEdGAdGHAdHAdIdIIdJAdJHA",
   "dKAdKHAdLAdLLAdMAdNAdNGAdOOdPAdPHAdRAdSAdTAdTHAdTTAdTTHAdUdUUdVAdYAcOMcSIGN ANUSVARAdVISARGA",
   "cVIRAMAcVOWEL SIGN AAeAIeAUeEEeIeIIeOOeUeUUaGURMUKHI ABBREVIATION SIGNbADDAKbDIGIT EIGHTcFIVE",
   "cFOURcNINEcONEcSEVENcSIXcTHREEcTWOcZERObEK ONKARbIRIbLETTER AcAAcAIcAUcBAcBHAcCAcCHAcDAcDDA",
   "cDDHAcDHAcEEcFAcGAcGHAcGHHAcHAcIcIIcJAcJHAcKAcKHAcKHHAcLAcLLAcMAcNAcNGAcNNAcNYAcOOcPAcPHAcRA",
   "cRRAcSAcSHAcTAcTHAcTTAcTTHAcUcUUcVAcYAcZAbSIGN ADAK BINDIcBINDIcNUKTAcUDAATcVIRAMAcVISARGA",
   "cYAKASHbTIPPIbURAbVOWEL SIGN AAdAIdAUdEEdIdIIdOOdUdUUaHADESaHAIR SPACEaHAIRCUT",
   "aHALFWIDTH BLACK SQUAREbDOWNWARDS ARROWbFORMS LIGHT VERTICALbHANGUL FILLERcLETTER AdAEdCHIEUCH",
   "dCIEUCdEdEOdEUdHIEUHdIdIEUNGdKHIEUKHdKIYEOKdKIYEOK-SIOSdMIEUMdNIEUNdNIEUN-CIEUCdNIEUN-HIEUHdO",
   "dOEdPHIEUPHdPIEUPdPIEUP-SIOSdRIEULdRIEUL-HIEUHdRIEUL-KIYEOKdRIEUL-MIEUMdRIEUL-PHIEUPH",
   "dRIEUL-PIEUPdRIEUL-SIOSdRIEUL-THIEUTHdSIOSdSSANGCIEUCdSSANGKIYEOKdSSANGPIEUPdSSANGSIOS",
   "dSSANGTIKEUTdTHIEUTHdTIKEUTdUdWAdWAEdWEdWEOdWIdYAdYAEdYEdYEOdYIdYOdYUbIDEOGRAPHIC COMMA",
   "cFULL STOPbKATAKANA LETTER AdEdHAdHEdHIdHOdHUdIdKAdKEdKIdKOdKUdMAdMEdMIdMOdMUdNdNAdNEdNIdNOdNU",
   "dOdRAdREdRIdROdRUdSAdSEdSIdSMALL AeEeIeOeTUeUeYAeYOeYUdSOdSUdTAdTEdTIdTOdTUdUdWAdWOdYAdYOdYU",
   "cMIDDLE DOTcSEMI-VOICED SOUND MARKcVOICED SOUND MARKbKATAKANA-HIRAGANA PROLONGED SOUND MARK",
   "bLEFT CORNER BRACKETbLEFTWARDS ARROWbRIGHT CORNER BRACKETbRIGHTWARDS ARROWbUPWARDS ARROW",
   "bWHITE CIRCLEaHAMBURGERaHAMMERbAND PICKcSICKLEcWRENCHaHAMSAaHAMSTER FACE",
   "aHAND WITH INDEX AND MIDDLE FINGERS CROSSEDdFINGER AND THUMB CROSSEDaHANDBAGaHANDBALL",
   "aHANDSHAKEaHANGUL CHOSEONG CEONGCHIEUMCHIEUCHcCEONGCHIEUMCIEUCcCEONGCHIEUMSIOS",
   "cCEONGCHIEUMSSANGCIEUCcCEONGCHIEUMSSANGSIOScCHIEUCHcCHIEUCH-HIEUHcCHIEUCH-KHIEUKH",
   "cCHITUEUMCHIEUCHcCHITUEUMCIEUCcCHITUEUMSIOScCHITUEUMSSANGCIEUCcCHITUEUMSSANGSIOScCIEUC",
   "cCIEUC-IEUNGcFILLERcHIEUHcHIEUH-SIOScIEUNGcIEUNG-CHIEUCHcIEUNG-CIEUCcIEUNG-HIEUHcIEUNG-KIYEOK",
   "cIEUNG-MIEUMcIEUNG-PANSIOScIEUNG-PHIEUPHcIEUNG-PIEUPcIEUNG-RIEULcIEUNG-SIOScIEUNG-THIEUTH",
   "cIEUNG-TIKEUTcKAPYEOUNMIEUMcKAPYEOUNPHIEUPHcKAPYEOUNPIEUPcKAPYEOUNRIEULcKAPYEOUNSSANGPIEUP",
   "cKHIEUKHcKIYEOKcKIYEOK-TIKEUTcMIEUMcMIEUM-KIYEOKcMIEUM-PIEUPcMIEUM-SIOScMIEUM-TIKEUTcNIEUN",
   "cNIEUN-CIEUCcNIEUN-HIEUHcNIEUN-KIYEOKcNIEUN-PIEUPcNIEUN-SIOScNIEUN-TIKEUTcPANSIOScPHIEUPH",
   "cPHIEUPH-HIEUHcPHIEUPH-PIEUPcPIEUPcPIEUP-CHIEUCHcPIEUP-CIEUCcPIEUP-HIEUHcPIEUP-KHIEUKH",
   "cPIEUP-KIYEOKcPIEUP-NIEUNcPIEUP-PHIEUPHcPIEUP-SIOScPIEUP-SIOS-CIEUCcPIEUP-SIOS-KIYEOK",
   "cPIEUP-SIOS-PIEUPcPIEUP-SIOS-THIEUTHcPIEUP-SIOS-TIKEUTcPIEUP-SSANGSIOScPIEUP-THIEUTH",
   "cPIEUP-TIKEUTcRIEULcRIEUL-CIEUCcRIEUL-HIEUHcRIEUL-KAPYEOUNPIEUPcRIEUL-KHIEUKHcRIEUL-KIYEOK",
   "cRIEUL-MIEUMcRIEUL-NIEUNcRIEUL-PIEUPcRIEUL-SIOScRIEUL-SSANGKIYEOKcRIEUL-SSANGPIEUP",
   "cRIEUL-SSANGTIKEUTcRIEUL-TIKEUTcSIOScSIOS-CHIEUCHcSIOS-CIEUCcSIOS-HIEUHcSIOS-IEUNG",
   "cSIOS-KHIEUKHcSIOS-KIYEOKcSIOS-MIEUMcSIOS-NIEUNcSIOS-PHIEUPHcSIOS-PIEUPcSIOS-PIEUP-KIYEOK",
   "cSIOS-RIEULcSIOS-SSANGSIOScSIOS-THIEUTHcSIOS-TIKEUTcSSANGCIEUCcSSANGCIEUC-HIEUHcSSANGHIEUH",
   "cSSANGIEUNGcSSANGKIYEOKcSSANGNIEUNcSSANGPIEUPcSSANGRIEULcSSANGSIOScSSANGSIOS-PIEUP",
   "cSSANGTHIEUTHcSSANGTIKEUTcSSANGYEORINHIEUHcTHIEUTHcTIKEUTcTIKEUT-CIEUCcTIKEUT-KIYEOK",
   "cTIKEUT-MIEUMcTIKEUT-PIEUPcTIKEUT-RIEULcTIKEUT-SIOScYEORINHIEUHcYESIEUNGbDOUBLE DOT TONE MARK",
   "bFILLERbJONGSEONG CHIEUCHcCIEUCcCIEUC-PIEUPcCIEUC-SSANGPIEUPcHIEUHcHIEUH-MIEUMcHIEUH-NIEUN",
   "cHIEUH-PIEUPcHIEUH-RIEULcIEUNGcIEUNG-KHIEUKHcIEUNG-KIYEOKcIEUNG-SSANGKIYEOKcKAPYEOUNMIEUM",
   "cKAPYEOUNPHIEUPHcKAPYEOUNPIEUPcKAPYEOUNRIEULcKHIEUKHcKIYEOKcKIYEOK-CHIEUCHcKIYEOK-HIEUH",
   "cKIYEOK-KHIEUKHcKIYEOK-NIEUNcKIYEOK-PIEUPcKIYEOK-RIEULcKIYEOK-SIOScKIYEOK-SIOS-KIYEOKcMIEUM",
   "cMIEUM-CHIEUCHcMIEUM-CIEUCcMIEUM-HIEUHcMIEUM-KIYEOKcMIEUM-NIEUNcMIEUM-PANSIOScMIEUM-PIEUP",
   "cMIEUM-PIEUP-SIOScMIEUM-RIEULcMIEUM-SIOScMIEUM-SSANGNIEUNcMIEUM-SSANGSIOScNIEUNcNIEUN-CHIEUCH",
   "cNIEUN-CIEUCcNIEUN-HIEUHcNIEUN-KIYEOKcNIEUN-PANSIOScNIEUN-RIEULcNIEUN-SIOScNIEUN-THIEUTH",
   "cNIEUN-TIKEUTcPANSIOScPANSIOS-KAPYEOUNPIEUPcPANSIOS-PIEUPcPHIEUPHcPHIEUPH-PIEUPcPHIEUPH-SIOS",
   "cPHIEUPH-THIEUTHcPIEUPcPIEUP-CHIEUCHcPIEUP-CIEUCcPIEUP-HIEUHcPIEUP-MIEUMcPIEUP-PHIEUPH",
   "cPIEUP-RIEULcPIEUP-RIEUL-PHIEUPHcPIEUP-SIOScPIEUP-SIOS-TIKEUTcPIEUP-TIKEUTcRIEULcRIEUL-HIEUH",
   "cRIEUL-KAPYEOUNPIEUPcRIEUL-KHIEUKHcRIEUL-KIYEOKcRIEUL-KIYEOK-HIEUHcRIEUL-KIYEOK-SIOS",
   "cRIEUL-MIEUMcRIEUL-MIEUM-HIEUHcRIEUL-MIEUM-KIYEOKcRIEUL-MIEUM-SIOScRIEUL-NIEUNcRIEUL-PANSIOS",
   "cRIEUL-PHIEUPHcRIEUL-PIEUPcRIEUL-PIEUP-HIEUHcRIEUL-PIEUP-PHIEUPHcRIEUL-PIEUP-SIOS",
   "cRIEUL-PIEUP-TIKEUTcRIEUL-SIOScRIEUL-SSANGKIYEOKcRIEUL-SSANGSIOScRIEUL-THIEUTHcRIEUL-TIKEUT",
   "cRIEUL-TIKEUT-HIEUHcRIEUL-YEORINHIEUHcRIEUL-YEORINHIEUH-HIEUHcRIEUL-YESIEUNGcSIOScSIOS-CHIEUCH",
   "cSIOS-CIEUCcSIOS-HIEUHcSIOS-KAPYEOUNPIEUPcSIOS-KIYEOKcSIOS-MIEUMcSIOS-PANSIOScSIOS-PIEUP",
   "cSIOS-RIEULcSIOS-THIEUTHcSIOS-TIKEUTcSSANGCIEUCcSSANGIEUNGcSSANGKIYEOKcSSANGMIEUMcSSANGNIEUN",
   "cSSANGPIEUPcSSANGRIEULcSSANGRIEUL-KHIEUKHcSSANGSIOScSSANGSIOS-KIYEOKcSSANGSIOS-TIKEUT",
   "cSSANGTIKEUTcSSANGTIKEUT-PIEUPcSSANGYESIEUNGcTHIEUTHcTIKEUTcTIKEUT-CHIEUCHcTIKEUT-CIEUC",
   "cTIKEUT-KIYEOKcTIKEUT-PIEUPcTIKEUT-RIEULcTIKEUT-SIOScTIKEUT-SIOS-KIYEOKcTIKEUT-THIEUTH",
   "cYEORINHIEUHcYESIEUNGcYESIEUNG-HIEUHcYESIEUNG-KHIEUKHcYESIEUNG-KIYEOKcYESIEUNG-MIEUM",
   "cYESIEUNG-PANSIOScYESIEUNG-SIOScYESIEUNG-SSANGKIYEOKbJUNGSEONG AcA-EUcA-OcA-UcAEcARAEAcARAEA-A",
   "cARAEA-EcARAEA-EOcARAEA-IcARAEA-UcEcEOcEO-EUcEO-OcEO-UcEUcEU-AcEU-EcEU-EOcEU-EUcEU-OcEU-U",
   "cFILLERcIcI-AcI-ARAEAcI-EUcI-IcI-OcI-O-IcI-UcI-YAcI-YA-OcI-YAEcI-YEcI-YEOcI-YOcI-YUcOcO-EcO-EO",
   "cO-OcO-O-IcO-UcO-YAcO-YAEcO-YEcO-YEOcOEcSSANGARAEAcUcU-AcU-AEcU-EO-EUcU-I-IcU-UcU-YEcU-YEOcWA",
   "cWAEcWEcWEOcWIcYAcYA-OcYA-UcYA-YOcYAEcYEcYEOcYEO-OcYEO-UcYEO-YAcYIcYI-UcYOcYO-AcYO-AEcYO-EO",
   "cYO-IcYO-OcYO-YAcYO-YAEcYO-YEOcYUcYU-AcYU-AEcYU-EcYU-EOcYU-IcYU-OcYU-UcYU-YEcYU-YEObLETTER A",
   "cAEcARAEAcARAEAEcCHIEUCHcCIEUCcEcEOcEUcHIEUHcIcIEUNGcKAPYEOUNMIEUMcKAPYEOUNPHIEUPH",
   "cKAPYEOUNPIEUPcKAPYEOUNSSANGPIEUPcKHIEUKHcKIYEOKcKIYEOK-SIOScMIEUMcMIEUM-PANSIOScMIEUM-PIEUP",
   "cMIEUM-SIOScNIEUNcNIEUN-CIEUCcNIEUN-HIEUHcNIEUN-PANSIOScNIEUN-SIOScNIEUN-TIKEUTcOcOEcPANSIOS",
   "cPHIEUPHcPIEUPcPIEUP-CIEUCcPIEUP-KIYEOKcPIEUP-SIOScPIEUP-SIOS-KIYEOKcPIEUP-SIOS-TIKEUT",
   "cPIEUP-THIEUTHcPIEUP-TIKEUTcRIEULcRIEUL-HIEUHcRIEUL-KIYEOKcRIEUL-KIYEOK-SIOScRIEUL-MIEUM",
   "cRIEUL-PANSIOScRIEUL-PHIEUPHcRIEUL-PIEUPcRIEUL-PIEUP-SIOScRIEUL-SIOScRIEUL-THIEUTH",
   "cRIEUL-TIKEUTcRIEUL-YEORINHIEUHcSIOScSIOS-CIEUCcSIOS-KIYEOKcSIOS-NIEUNcSIOS-PIEUPcSIOS-TIKEUT",
   "cSSANGCIEUCcSSANGHIEUHcSSANGIEUNGcSSANGKIYEOKcSSANGNIEUNcSSANGPIEUPcSSANGSIOScSSANGTIKEUT",
   "cTHIEUTHcTIKEUTcUcWAcWAEcWEcWEOcWIcYAcYAEcYEcYEOcYEORINHIEUHcYESIEUNGcYESIEUNG-PANSIOS",
   "cYESIEUNG-SIOScYIcYOcYO-IcYO-YAcYO-YAEcYUcYU-IcYU-YEcYU-YEObSINGLE DOT TONE MARK",
   "aHANGZHOU NUMERAL EIGHTcFIVEcFOURcNINEcONEcSEVENcSIXcTENcTHIRTYcTHREEcTWENTYcTWO",
   "aHANIFI ROHINGYA DIGIT EIGHTdFIVEdFOURdNINEdONEdSEVENdSIXdTHREEdTWOdZEROcLETTER AdBAdCAdDAdDDA",
   "dFAdGAdHAdJAdKAdKHAdKINNA WAeYAdLAdMAdNAdNGAdNYAdPAdRAdRRAdSAdSHAdTAdTTAdVAdWAdYAdZA",
   "cMARK NA KHONNAdSAKINcSIGN HARBAHAYdTAHALAdTANAdTASSIcVOWEL AdEdIdOdUaHANUNOO LETTER AcBAcDA",
   "cGAcHAcIcKAcLAcMAcNAcNGAcPAcRAcSAcTAcUcWAcYAbSIGN PAMUDPODbVOWEL SIGN IdU",
   "aHAPPY PERSON RAISING ONE HANDaHARD DISKaHATCHING CHICKaHATRAN LETTER ALEPHcAYNcBETH",
   "cDALETH-RESHcGIMELcHEcHETHcKAPHcLAMEDHcMEMcNUNcPEcQOPHcSADHEcSAMEKHcSHINcTAWcTETHcWAWcYODH",
   "cZAYNbNUMBER FIVEcONEdHUNDREDcTENcTWENTYaHEADPHONEaHEADSTONEbGRAVEYARD SYMBOL",
   "aHEAR-NO-EVIL MONKEYaHEART DECORATIONbHANDSbWITH ARROWcRIBBONcTIP ON THE LEFT",
   "aHEAVY AMPERSAND ORNAMENTbARROW SHAFT WIDTH ONEfHALFfTHIRDeTWO THIRDSbASTERISKbBALLOT X",
   "bBLACK CURVED DOWNWARDS AND RIGHTWARDS ARROWdUPWARDS AND RIGHTWARDS ARROWcHEART",
   "bBLACK-FEATHERED NORTH EAST ARROWcRIGHTWARDS ARROWcSOUTH EAST ARROWbCHECK MARK",
   "bCHEVRON SNOWFLAKEbCIRCLEcWITH CIRCLE INSIDEdSTROKE AND TWO DOTS ABOVEbCIRCLED SALTIRE",
   "bCONCAVE-POINTED BLACK RIGHTWARDS ARROWbDASHED TRIANGLE-HEADED RIGHTWARDS ARROWbDIVISION SIGN",
   "bDOLLAR SIGNbDOUBLE COMMA QUOTATION MARK ORNAMENTcTURNED COMMA QUOTATION MARK ORNAMENT",
   "bDOWNWARDS ARROW WITH EQUILATERAL ARROWHEADeLARGE EQUILATERAL ARROWHEAD",
   "bEIGHT POINTED BLACK STARdPINWHEEL STARdRECTILINEAR BLACK STARcSPOKED ASTERISK",
   "cTEARDROP-SPOKED PROPELLER ASTERISKbEQUALS SIGNbEXCLAMATION MARK ORNAMENTdSYMBOL",
   "bFIVE POINTED BLACK STARcSPOKED ASTERISKbFOUR BALLOON-SPOKED ASTERISKbGREEK CROSS",
   "bHEART EXCLAMATION MARK ORNAMENTbHORIZONTAL FILLbINTERROBANG ORNAMENTbLARGE CIRCLEbLATIN CROSS",
   "bLEFT-POINTING ANGLE BRACKET ORNAMENTdQUOTATION MARK ORNAMENT",
   "bLEFTWARDS ARROW WITH EQUILATERAL ARROWHEADeLARGE EQUILATERAL ARROWHEAD",
   "bLIGATURE OPEN ET ORNAMENTbLOW DOUBLE COMMA QUOTATION MARK ORNAMENT",
   "cSINGLE COMMA QUOTATION MARK ORNAMENTbLOWER RIGHT-SHADOWED WHITE RIGHTWARDS ARROWbMINUS SIGN",
   "bMULTIPLICATION XbNORTH EAST ARROWdPOINTING BUDeVINE LEAFcWEST POINTING BUDeVINE LEAF",
   "bOPEN CENTRE CROSSbOUTLINED BLACK STARbOVAL WITH OVAL INSIDEbPLUS SIGN",
   "bRIGHT-POINTING ANGLE BRACKET ORNAMENTdQUOTATION MARK ORNAMENTbRIGHTWARDS ARROW",
   "dWITH EQUILATERAL ARROWHEADeLARGE EQUILATERAL ARROWHEADbROUND-TIPPED RIGHTWARDS ARROWbSALTIRE",
   "bSANS-SERIF INTERROBANG ORNAMENTbSCRIPT LIGATURE ET ORNAMENT",
   "bSINGLE COMMA QUOTATION MARK ORNAMENTcTURNED COMMA QUOTATION MARK ORNAMENT",
   "bSIX POINTED BLACK STARcSPOKED ASTERISKbSOUTH EAST ARROWdPOINTING BUDeVINE LEAF",
   "cWEST POINTING BUDeVINE LEAFbSPARKLEbTEARDROP-SHANKED RIGHTWARDS ARROW",
   "bTEARDROP-SPOKED ASTERISKcPINWHEEL ASTERISKbTRIANGLE-HEADED RIGHTWARDS ARROW",
   "bTWELVE POINTED BLACK STARdPINWHEEL STARbUPPER RIGHT-SHADOWED WHITE RIGHTWARDS ARROW",
   "bUPWARDS ARROW WITH EQUILATERAL ARROWHEADeLARGE EQUILATERAL ARROWHEADbVERTICAL BAR",
   "bWEDGE-TAILED RIGHTWARDS ARROWbWHITE CIRCLEcDOWN-POINTING TRIANGLEcSQUARE",
   "bWIDE-HEADED RIGHTWARDS ARROWaHEBREW ACCENT ATNAH HAFUKHcDARGAcDEHIcETNAHTAcGERESHdMUQDAM",
   "cGERSHAYIMcILUYcMAHAPAKHcMERKHAdKEFULAcMUNAHcOLEcPASHTAcPAZERcQADMAcQARNEY PARAcREVIAcSEGOL",
   "cSHALSHELETcTELISHA GEDOLAdQETANAcTEVIRcTIPEHAcYERAH BEN YOMOcYETIVcZAQEF GADOLdQATANcZARQA",
   "cZINORbLETTER ALEFdWITH MAPIQePATAHeQAMATScALTERNATIVE AYINdPLUS SIGNcAYINcBETdWITH DAGESH",
   "eRAFEcDALETdWITH DAGESHcFINAL KAFeWITH DAGESHdMEMdNUNdPEeWITH DAGESHdTSADIcGIMELdWITH DAGESH",
   "cHEdWITH MAPIQcHETcKAFdWITH DAGESHeRAFEcLAMEDdWITH DAGESHcMEMdWITH DAGESHcNUNdWITH DAGESHcPE",
   "dWITH DAGESHeRAFEcQOFdWITH DAGESHcRESHdWITH DAGESHcSAMEKHdWITH DAGESHcSHINdWITH DAGESH",
   "fAND SHIN DOTgSIN DOTeSHIN DOTeSIN DOTcTAVdWITH DAGESHcTETdWITH DAGESHcTSADIdWITH DAGESHcVAV",
   "dWITH DAGESHeHOLAMcWIDE ALEFdDALETdFINAL MEMdHEdKAFdLAMEDdRESHdTAVcYODdWITH DAGESHeHIRIQcZAYIN",
   "dWITH DAGESHbLIGATURE ALEF LAMEDcYIDDISH DOUBLE VAVeYODdVAV YODdYOD YOD PATAHbMARK LOWER DOT",
   "cMASORA CIRCLEcUPPER DOTbPOINT DAGESH OR MAPIQcHATAF PATAHdQAMATSdSEGOLcHIRIQcHOLAM",
   "dHASER FOR VAVcJUDEO-SPANISH VARIKAcMETEGcPATAHcQAMATSdQATANcQUBUTScRAFEcSEGOLcSHEVAcSHIN DOT",
   "cSIN DOTcTSEREbPUNCTUATION GERESHcGERSHAYIMcMAQAFcNUN HAFUKHAcPASEQcSOF PASUQbYOD TRIANGLE",
   "aHEDGEHOGaHELICOPTERaHELLSCHREIBER PAUSE SYMBOLaHELM SYMBOLaHELMET WITH WHITE CROSS",
   "aHENTAIGANA LETTER A-1cA-2cA-3cA-WOcE-1cE-2cE-3cE-4cE-5cE-6cHA-1cHA-10cHA-11cHA-2cHA-3cHA-4",
   "cHA-5cHA-6cHA-7cHA-8cHA-9cHE-1cHE-2cHE-3cHE-4cHE-5cHE-6cHE-7cHI-1cHI-2cHI-3cHI-4cHI-5cHI-6",
   "cHI-7cHO-1cHO-2cHO-3cHO-4cHO-5cHO-6cHO-7cHO-8cHU-1cHU-2cHU-3cI-1cI-2cI-3cI-4cKA-1cKA-10cKA-11",
   "cKA-2cKA-3cKA-4cKA-5cKA-6cKA-7cKA-8cKA-9cKA-KEcKE-1cKE-2cKE-3cKE-4cKE-5cKE-6cKI-1cKI-2cKI-3",
   "cKI-4cKI-5cKI-6cKI-7cKI-8cKO-1cKO-2cKO-3cKO-KIcKU-1cKU-2cKU-3cKU-4cKU-5cKU-6cKU-7cMA-1cMA-2",
   "cMA-3cMA-4cMA-5cMA-6cMA-7cME-1cME-2cME-MAcMI-1cMI-2cMI-3cMI-4cMI-5cMI-6cMI-7cMO-1cMO-2cMO-3",
   "cMO-4cMO-5cMO-6cMU-1cMU-2cMU-3cMU-4cN-MU-MO-1cN-MU-MO-2cNA-1cNA-2cNA-3cNA-4cNA-5cNA-6cNA-7",
   "cNA-8cNA-9cNE-1cNE-2cNE-3cNE-4cNE-5cNE-6cNE-KOcNI-1cNI-2cNI-3cNI-4cNI-5cNI-6cNI-7cNI-TEcNO-1",
   "cNO-2cNO-3cNO-4cNO-5cNU-1cNU-2cNU-3cO-1cO-2cO-3cRA-1cRA-2cRA-3cRA-4cRE-1cRE-2cRE-3cRE-4cRI-1",
   "cRI-2cRI-3cRI-4cRI-5cRI-6cRI-7cRO-1cRO-2cRO-3cRO-4cRO-5cRO-6cRU-1cRU-2cRU-3cRU-4cRU-5cRU-6",
   "cSA-1cSA-2cSA-3cSA-4cSA-5cSA-6cSA-7cSA-8cSE-1cSE-2cSE-3cSE-4cSE-5cSI-1cSI-2cSI-3cSI-4cSI-5",
   "cSI-6cSO-1cSO-2cSO-3cSO-4cSO-5cSO-6cSO-7cSU-1cSU-2cSU-3cSU-4cSU-5cSU-6cSU-7cSU-8cTA-1cTA-2",
   "cTA-3cTA-4cTE-1cTE-2cTE-3cTE-4cTE-5cTE-6cTE-7cTE-8cTE-9cTI-1cTI-2cTI-3cTI-4cTI-5cTI-6cTI-7",
   "cTO-1cTO-2cTO-3cTO-4cTO-5cTO-6cTO-RAcTU-1cTU-2cTU-3cTU-4cTU-TOcU-1cU-2cU-3cU-4cU-5cWA-1cWA-2",
   "cWA-3cWA-4cWA-5cWE-1cWE-2cWE-3cWE-4cWI-1cWI-2cWI-3cWI-4cWI-5cWO-1cWO-2cWO-3cWO-4cWO-5cWO-6",
   "cWO-7cYA-1cYA-2cYA-3cYA-4cYA-5cYA-YOcYO-1cYO-2cYO-3cYO-4cYO-5cYO-6cYU-1cYU-2cYU-3cYU-4aHERB",
   "aHERMITIAN CONJUGATE MATRIXaHEXAGRAM FOR ABUNDANCEcAFTER COMPLETIONcAPPROACHcBEFORE COMPLETION",
   "cBITING THROUGHcBREAKTHROUGHcCOMING TO MEETcCONFLICTcCONTEMPLATIONcDARKENING OF THE LIGHT",
   "cDECREASEcDELIVERANCEcDEVELOPMENTcDIFFICULTY AT THE BEGINNINGcDISPERSIONcDURATIONcENTHUSIASM",
   "cFELLOWSHIPcFOLLOWINGcGATHERING TOGETHERcGRACEcGREAT POSSESSIONdPOWERdPREPONDERANCEdTAMING",
   "cHOLDING TOGETHERcINCREASEcINFLUENCEcINNER TRUTHcINNOCENCEcLIMITATIONcMODESTYcMOUTH CORNERS",
   "cOBSTRUCTIONcOPPOSITIONcOPPRESSIONcPEACEcPROGRESScPUSHING UPWARDcRETREATcRETURNcREVOLUTION",
   "cSMALL PREPONDERANCEdTAMINGcSPLITTING APARTcSTANDSTILLcTHE ABYSMAL WATERdARMYdAROUSING THUNDER",
   "dCAULDRONdCLINGING FIREdCREATIVE HEAVENdFAMILYdGENTLE WINDdJOYOUS LAKEdKEEPING STILL MOUNTAIN",
   "dMARRYING MAIDENdRECEPTIVE EARTHdWANDERERdWELLcTREADINGcWAITINGcWORK ON THE DECAYED",
   "cYOUTHFUL FOLLYaHIBISCUSaHIGH BRIGHTNESS SYMBOLbOCTET PRESETbVOLTAGE SIGNaHIGH-HEELED SHOE",
   "aHIGH-SPEED TRAINcWITH BULLET NOSEaHIKING BOOTaHINDU TEMPLEaHIPPOPOTAMUSaHIRAGANA DIGRAPH YORI",
   "bITERATION MARKbLETTER AcARCHAIC WUdYEcBAcBEcBIcBOcBUcDAcDEcDIcDOcDUcEcGAcGEcGIcGOcGUcHAcHEcHI",
   "cHOcHUcIcKAcKEcKIcKOcKUcMAcMEcMIcMOcMUcNcNAcNEcNIcNOcNUcOcPAcPEcPIcPOcPUcRAcREcRIcROcRUcSAcSE",
   "cSIcSMALL AdEdIdKAdKEdOdTUdUdWAdWEdWIdWOdYAdYOdYUcSOcSUcTAcTEcTIcTOcTUcUcVUcWAcWEcWIcWOcYAcYO",
   "cYUcZAcZEcZIcZOcZUbVOICED ITERATION MARKaHISTORIC SITEaHOCHOaHOLEaHOLLOW QUILT SQUARE ORNAMENT",
   "eIN BLACK SQUAREaHOMOTHETICaHONEY POTaHONEYBEEaHOOKaHOPaHORIZONTAL BARbBLACK HEXAGONcOCTAGON",
   "bELLIPSISbLINE EXTENSIONbMALE WITH STROKE SIGNbONE EIGHTH BLOCK-1358dBLOCK-2dBLOCK-3dBLOCK-4",
   "dBLOCK-5dBLOCK-6dBLOCK-7bSCAN LINE-1cLINE-3cLINE-7cLINE-9bTAB KEYbTABULATIONcSET",
   "cWITH JUSTIFICATIONbTRAFFIC LIGHTaHORSEbFACEbRACINGaHOSPITALaHOT BEVERAGEbDOGbPEPPERbSPRINGS",
   "aHOTELaHOURGLASSbWITH FLOWING SANDaHOUSEbBUILDINGbBUILDINGSbWITH GARDENaHRYVNIA SIGNaHTaHTJ",
   "aHTSaHUGGING FACEaHUNDRED POINTS SYMBOLaHUSHED FACEaHUTaHYGIEAaHYPHENbBULLETbWITH DIAERESIS",
   "aHYPHEN-MINUSaHYPHENATION POINTaHYPODIASTOLEaHYSTERESIS SYMBOLaI LOVE YOU HAND SIGNaICE CREAM",
   "bCUBEbHOCKEY STICK AND PUCKbSKATEaIDENTICAL TOcAND SLANTED PARALLELbWITH DOT ABOVE",
   "aIDENTIFICATION CARDaIDEOGRAPHIC ANNOTATION BOTTOM MARKcEARTH MARKcFIRST MARKcFOUR MARK",
   "cFOURTH MARKcHEAVEN MARKcLINKING MARKcMAN MARKcMIDDLE MARKcONE MARKcREVERSE MARKcSECOND MARK",
   "cTHIRD MARKcTHREE MARKcTOP MARKcTWO MARKbCLOSING MARKbCOMMAbDEPARTING TONE MARK",
   "bDESCRIPTION CHARACTER ABOVE TO BELOWfMIDDLE AND BELOWdFULL SURROUNDdLEFT TO MIDDLE AND RIGHT",
   "fRIGHTdOVERLAIDdSURROUND FROM ABOVEfBELOWfLEFTfLOWER LEFTfUPPER LEFTgRIGHTbENTERING TONE MARK",
   "bFULL STOPbHALF FILL SPACEbITERATION MARKbLEVEL TONE MARKbNUMBER ZERObRISING TONE MARKbSPACE",
   "bTALLY MARK FIVEdFOURdONEdTHREEdTWObTELEGRAPH LINE FEED SEPARATOR SYMBOLcSYMBOL FOR APRIL",
   "eAUGUSTeDAY EIGHTfEIGHTEENfELEVENfFIFTEENfFIVEfFOURfFOURTEENfNINEfNINETEENfONEfSEVENfSEVENTEEN",
   "fSIXfSIXTEENfTENfTHIRTEENfTHIRTYfTHIRTY-ONEfTHREEfTWELVEfTWENTYfTWENTY-EIGHTfTWENTY-FIVE",
   "fTWENTY-FOURfTWENTY-NINEfTWENTY-ONEfTWENTY-SEVENfTWENTY-SIXfTWENTY-THREEfTWENTY-TWOfTWO",
   "eDECEMBEReFEBRUARYeHOUR EIGHTfEIGHTEENfELEVENfFIFTEENfFIVEfFOURfFOURTEENfNINEfNINETEENfONE",
   "fSEVENfSEVENTEENfSIXfSIXTEENfTENfTHIRTEENfTHREEfTWELVEfTWENTYfTWENTY-FOURfTWENTY-ONE",
   "fTWENTY-THREEfTWENTY-TWOfTWOfZEROeJANUARYeJULYeJUNEeMARCHeMAYeNOVEMBEReOCTOBEReSEPTEMBER",
   "bVARIATION INDICATORaIMAGE OFcOR APPROXIMATELY EQUAL TOaIMPaIMPERIAL ARAMAIC LETTER ALEPHdAYIN",
   "dBETHdDALETHdGIMELdHEdHETHdKAPHdLAMEDHdMEMdNUNdPEdQOPHdRESHdSADHEdSAMEKHdSHINdTAWdTETHdWAW",
   "dYODHdZAYINcNUMBER ONEeHUNDREDeTHOUSANDdTENeTHOUSANDdTHREEdTWENTYdTWOcSECTION SIGNaINBOX TRAY",
   "aINCOMING ENVELOPEaINCOMPLETE INFINITYaINCREASE FONT SIZE SYMBOLaINCREASES ASaINCREMENTaIND",
   "aINDEXbPOINTING AT THE VIEWERaINDIAN RUPEE SIGNaINDIC SIYAQ ALTERNATE LAKH MARK",
   "cFRACTION ONE HALFeQUARTERdTHREE QUARTERScLAKH MARKcNUMBER ALTERNATE ONEeTEN THOUSANDeTWO",
   "dEIGHTeHUNDREDeTHOUSANDdEIGHTYeTHOUSANDdFIFTYeTHOUSANDdFIVEeHUNDREDeTHOUSANDdFORTYeTHOUSAND",
   "dFOUReHUNDREDeTHOUSANDdKARORdKARORANdLAKHdLAKHANdNINEeHUNDREDeTHOUSANDdNINETYeTHOUSANDdONE",
   "eHUNDREDeTHOUSANDdPREFIXED EIGHTeFIVEeFOUReNINEeONEeSEVENeSIXeTHREEeTWOdSEVENeHUNDREDeTHOUSAND",
   "dSEVENTYeTHOUSANDdSIXeHUNDREDeTHOUSANDdSIXTYeTHOUSANDdTENeTHOUSANDdTHIRTYeTHOUSANDdTHREE",
   "eHUNDREDeTHOUSANDdTWENTYeTHOUSANDdTWOeHUNDREDeTHOUSANDcPLACEHOLDERcRUPEE MARKaINFINITY",
   "bNEGATED WITH VERTICAL BARaINFORMATION DESK PERSONbSEPARATOR FOURcONEcTHREEcTWObSOURCE",
   "aINHIBIT ARABIC FORM SHAPINGbSYMMETRIC SWAPPINGaINPUT SYMBOL FOR LATIN CAPITAL LETTERSeLETTERS",
   "eSMALL LETTERSdNUMBERSdSYMBOLSaINSCRIPTIONAL PAHLAVI LETTER ALEPHdBETHdDALETHdGIMELdHEdHETH",
   "dKAPHdLAMEDHdMEM-QOPHdNUNdPEdSADHEdSAMEKHdSHINdTAWdTETHdWAW-AYIN-RESHdYODHdZAYINcNUMBER FOUR",
   "dONEeHUNDREDeTHOUSANDdTENdTHREEdTWENTYdTWObPARTHIAN LETTER ALEPHdAYINdBETHdDALETHdGIMELdHE",
   "dHETHdKAPHdLAMEDHdMEMdNUNdPEdQOPHdRESHdSADHEdSAMEKHdSHINdTAWdTETHdWAWdYODHdZAYINcNUMBER FOUR",
   "dONEeHUNDREDeTHOUSANDdTENdTHREEdTWENTYdTWOaINSERTION SYMBOLaINTEGRALbAROUND A POINT OPERATOR",
   "bAVERAGE WITH SLASHbEXTENSIONbWITH DOUBLE STROKEcINTERSECTIONcLEFTWARDS ARROW WITH HOOK",
   "cOVERBARcTIMES SIGNcUNDERBARcUNIONaINTERCALATEaINTERIOR PRODUCTaINTERLINEAR ANNOTATION ANCHOR",
   "cSEPARATORcTERMINATORaINTERLOCKED FEMALE AND MALE SIGNaINTERROBANGaINTERSECTION",
   "bABOVE BAR ABOVE UNIONcUNIONbBESIDE AND JOINED WITH INTERSECTIONbWITH DOTcLOGICAL ANDcOVERBAR",
   "aINVERSE BULLETbCHECK MARKbCHECKER BOARD FILLbDOWNWARDS ARROW WITH TIP LEFTWARDSbMEDIUM SHADE",
   "bWHITE CIRCLEaINVERTED EXCLAMATION MARKbINTERROBANGbLAZY SbLOW KAVYKAdWITH KAVYKA ABOVE",
   "bOHM SIGNbPENTAGRAMbQUESTION MARKbUNDERTIEaINVISIBLE PLUSbSEPARATORbTIMESaIZAKAYA LANTERN",
   "aJACK-O-LANTERNaJAPANESE BANK SYMBOLbCASTLEbDOLLSbGOBLINbINDUSTRIAL STANDARD SYMBOLbOGRE",
   "bPOST OFFICEbSYMBOL FOR BEGINNERaJARaJAVANESE CONSONANT SIGN CAKRAdKERETdPENGKALbDIGIT EIGHT",
   "cFIVEcFOURcNINEcONEcSEVENcSIXcTHREEcTWOcZERObLEFT RERENGGANbLETTER AcAIcBAdMURDAcCAdMURDAcDA",
   "dMAHAPRANAcDDAdMAHAPRANAcEcGAdMURDAcHAcIdKAWIcIIcJAdMAHAPRANAcKAdMURDAdSASAKcLAcMAcNAdMURDA",
   "cNGAdLELETeRASWADIcNYAdMURDAcOcPAdCEREKdMURDAcRAdAGUNGcSAdMAHAPRANAdMURDAcTAdMURDAcTTA",
   "dMAHAPRANAcUcWAcYAbPADA ADEGdADEGcANDAPcISEN-ISENcLINGSAcLUHURcLUNGSIcMADYAcPANGKATcPISELEH",
   "cTIRTA TUMETEScWINDUbPANGKONbPANGRANGKEPbRIGHT RERENGGANbSIGN CECAKdTELUcLAYARcPANYANGGA",
   "cWIGNYANbTURNED PADA PISELEHbVOWEL SIGN DIRGA MUREdPEPETdSUKUeMENDUTdTALINGdTARUNGdTOLONGdWULU",
   "eMELIKaJEANSaJIGSAW PUZZLE PIECEaJOINaJOYSTICKaJUGGLINGaJUNOaJUPITERaKAABA",
   "aKAITHI ABBREVIATION SIGNbDANDAbDOUBLE DANDAcSECTION MARKbENUMERATION SIGNbLETTER AcAAcAIcAU",
   "cBAcBHAcCAcCHAcDAcDDAcDDDHAcDDHAcDHAcEcGAcGHAcHAcIcIIcJAcJHAcKAcKHAcLAcMAcNAcNGAcNNAcNYAcOcPA",
   "cPHAcRAcRHAcSAcSHAcSSAcTAcTHAcTTAcTTHAcUcUUcVAcYAbNUMBER SIGNdABOVEbSECTION MARKbSIGN ANUSVARA",
   "cCANDRABINDUcNUKTAcVIRAMAcVISARGAbVOWEL SIGN AAdAIdAUdEdIdIIdOdUdUUdVOCALIC RaKANGAROO",
   "aKANGXI RADICAL AGAINcANDcARRIVEcARROWcAXEcBADGERcBAMBOOcBEANcBIGcBIRDcBITTERcBLACKcBLOODcBLUE",
   "cBOATcBODYcBOLT OF CLOTHcBONEcBOWcBRANCHcBRISTLEcBRUSHcCARTcCAULDRONcCAVEcCHILDcCITYcCLANcCLAW",
   "cCLIFFcCLOTHEScCOLORcCOMPAREcCORPSEcCOVERcCOWcDEATHcDEERcDIPPERcDISHcDISTINGUISHcDIVINATION",
   "cDO NOTcDOGcDOORcDOTcDOTTED CLIFFdTENTcDOUBLE XcDOWN BOXcDRAGONcDRUMcDRYcEARcEARTHcEATcEIGHT",
   "cEMBROIDERYcENCLOSUREcENTERcEVENcEVENINGcEYEcFACEcFANGcFATHERcFEATHERcFIELDcFIGHTcFIREcFISH",
   "cFLUTEcFLYcFOOTcFRAGRANTcFROGcFURcGATEcGHOSTcGOdSLOWLYcGOLDcGRAINcGRASScHAIRcHALBERD",
   "cHALF TREE TRUNKcHANDcHEADcHEARTcHEMPcHIDING ENCLOSUREcHOOKcHORNcHORSEcICEcINCHcINSECTcJADE",
   "cJARcKNIFEcLACKcLAMEcLEAFcLEATHERcLEEKcLEGScLIDcLIFEcLINEcLONGdSTRIDEcMANcMEATcMELONcMILLET",
   "cMINISTERcMOONcMORNINGcMORTARcMOUNDcMOUNTAINcMOUTHcNETcNOSEcNOTcOLDcONEcONESELFcOPEN BOX",
   "cOPPOSEcPIGcPLOWcPOWERcPRIVATEcPROFOUNDcRAINcRAPcRATcREDcRICEcRIGHT OPEN BOXcRIVERcROOFcRUN",
   "cSACRIFICIAL WINEcSALTcSAYcSCHOLARcSCRIPTcSEALcSECONDcSEEcSELFcSHEEPcSHELLcSHOOT",
   "cSHORT TAILED BIRDdTHREADcSICKNESScSILKcSKINcSLASHcSLAVEcSLICEcSMALLcSNOUTcSOUNDcSPEARcSPEECH",
   "cSPIRITcSPOONcSPROUTcSQUAREcSTANDcSTEAMcSTEPcSTONEcSTOPcSTOPPINGcSUNcSWEETcTABLEcTALL",
   "cTANNED LEATHERcTENcTIGERcTILEcTONGUEcTOOTHcTRACKcTREEcTRIPODcTURBANcTURTLEcTWOdHANDScUSE",
   "cVALLEYcVILLAGEcWALKdENCLOSUREcWATERcWEAPONcWESTcWHEATcWHITEcWINDcWINEcWOMANcWORKcWRAPcWRONG",
   "cYELLOWaKANNADA AI LENGTH MARKbDIGIT EIGHTcFIVEcFOURcNINEcONEcSEVENcSIXcTHREEcTWOcZERO",
   "bLENGTH MARKbLETTER AcAAcAIcAUcBAcBHAcCAcCHAcDAcDDAcDDHAcDHAcEcEEcFAcGAcGHAcHAcIcIIcJAcJHAcKA",
   "cKHAcLAcLLAcLLLAcMAcNAcNAKAARA POLLUcNGAcNNAcNYAcOcOOcPAcPHAcRAcRRAcSAcSHAcSSAcTAcTHAcTTAcTTHA",
   "cUcUUcVAcVOCALIC LdLLdRdRRcYAbSIGN ANUSVARAcAVAGRAHAcCANDRABINDUcJIHVAMULIYAcNUKTAcSIDDHAM",
   "cSPACING CANDRABINDUcUPADHMANIYAcVIRAMAcVISARGAbVOWEL SIGN AAdAIdAUdEdEEdIdIIdOdOOdUdUU",
   "dVOCALIC LeLLeReRRaKATAKANA DIGRAPH KOTObITERATION MARKbLETTER AcARCHAIC EdWUdYEdYIcBAcBEcBI",
   "cBOcBUcDAcDEcDIcDOcDUcEcGAcGEcGIcGOcGUcHAcHEcHIcHOcHUcIcKAcKEcKIcKOcKUcMAcMEcMI",
   "cMINNAN NASALIZED TONE-1eTONE-2eTONE-3eTONE-4eTONE-5eTONE-7eTONE-8dTONE-2dTONE-3dTONE-4dTONE-5",
   "dTONE-7dTONE-8cMOcMUcNcNAcNEcNIcNOcNUcOcPAcPEcPIcPOcPUcRAcREcRIcROcRUcSAcSEcSIcSMALL AdEdHAdHE",
   "dHIdHOdHUdIdKAdKEdKUdMUdNdNUdOdRAdREdRIdROdRUdSIdSUdTOdTUdUdWAdWEdWIdWOdYAdYOdYUcSOcSUcTAcTE",
   "cTIcTOcTUcUcVAcVEcVIcVOcVUcWAcWEcWIcWOcYAcYOcYUcZAcZEcZIcZOcZUbMIDDLE DOT",
   "bVOICED ITERATION MARKaKATAKANA-HIRAGANA DOUBLE HYPHENbPROLONGED SOUND MARK",
   "bSEMI-VOICED SOUND MARKbVOICED SOUND MARKaKAYAH LI DIGIT EIGHTdFIVEdFOURdNINEdONEdSEVENdSIX",
   "dTHREEdTWOdZEROcLETTER AdBAdCAdDAdGAdHAdHTAdIdKAdKHAdLAdMAdNAdNGAdNYAdOEdOOdPAdPHAdRAdSAdSHA",
   "dTAdTHAdVAdWAdYAdZAcSIGN CWIdSHYAcTONE CALYAePLOPHUdPLOPHUcVOWEL EdEEdOdUdUEaKELVIN SIGNaKEY",
   "aKEYBOARDbAND MOUSEaKEYCAP TENaKHAROSHTHI DIGIT FOURcONEcTHREEcTWObFRACTION ONE HALFbLETTER A",
   "cBAcBHAcCAcCHAcDAcDDAcDDHAcDHAcGAcGHAcHAcJAcKAcKHAcKKAcLAcMAcNAcNNAcNYAcPAcPHAcRAcSAcSHAcSSA",
   "cTAcTHAcTTAcTTHAcTTTAcTTTHAcVAcVHAcYAcZAbNUMBER ONE HUNDREDdTHOUSANDcTENcTWENTY",
   "bPUNCTUATION CIRCLEcCRESCENT BARcDANDAcDOTcDOUBLE DANDAcLINEScLOTUScMANGALAMcSMALL CIRCLE",
   "bSIGN ANUSVARAcBAR ABOVEcCAUDAcDOT BELOWcDOUBLE RING BELOWcVISARGAbVIRAMAbVOWEL LENGTH MARK",
   "cSIGN EdIdOdUdVOCALIC RaKHITAN SMALL SCRIPT FILLERaKHMER CURRENCY SYMBOL RIELbDIGIT EIGHTcFIVE",
   "cFOURcNINEcONEcSEVENcSIXcTHREEcTWOcZERObINDEPENDENT VOWEL LYdLYYdQAAdQAIdQAQdQAUdQEdQIdQII",
   "dQOO TYPE ONEfTWOdQUdQUKdQUUdQUUVdRYdRYYbLETTER BAcCAcCHAcCHOcCOcDAcDOcHAcKAcKHAcKHOcKOcLAcLO",
   "cMOcNGOcNNOcNOcNYOcPHAcPHOcPOcQAcROcSAcSHAcSSOcTAcTHAcTHOcTOcTTHAcTTHOcVOcYObSIGN AHSDA",
   "cATTHACANcAVAKRAHASANYAcBANTOCcBARIYOOSANcBATHAMASATcBEYYALcCAMNUC PII KUUHcCOENGcKAKABATcKHAN",
   "cKOOMUUTcLEK TOOcMUUSIKATOANcNIKAHITcPHNAEK MUANcREAHMUKcROBATcSAMYOK SANNYAcTOANDAKHIAT",
   "cTRIISAPcVIRIAMcYUUKALEAPINTUbSYMBOL BEI KOETdROCcBUON KOETdROCcDAP KOETdROCcDAP-BEI KOETdROC",
   "cDAP-BUON KOETdROCcDAP-MUOY KOETdROCcDAP-PII KOETdROCcDAP-PRAM KOETdROCcLEK ATTAK BEIeBUON",
   "eMUOYePIIePRAMePRAM-BEIePRAM-BUONePRAM-MUOYePRAM-PIIeSONcMUOY KOETdROCcPATHAMASATcPII KOETdROC",
   "cPRAM KOETdROCcPRAM-BEI KOETdROCcPRAM-BUON KOETdROCcPRAM-MUOY KOETdROCcPRAM-PII KOETdROC",
   "cTUTEYASATbVOWEL INHERENT AAdAQcSIGN AAdAEdAIdAUdEdIdIEdIIdOEdOOdUdUAdUUdYdYAdYY",
   "aKHOJKI ABBREVIATION SIGNbDANDAbDOUBLE DANDAcSECTION MARKbLETTER AcAAcAIcAUcBAcBBAcBHAcCAcCHA",
   "cDAcDDAcDDDAcDDHAcDHAcEcGAcGGAcGHAcHAcIcJAcJJAcKAcKHAcLAcLLAcMAcNAcNGAcNNAcNYAcOcPAcPHAcRAcSA",
   "cTAcTHAcTTAcTTHAcUcVAcYAbSECTION MARKbSIGN ANUSVARAcNUKTAcSHADDAcSUKUNcVIRAMAbVOWEL SIGN AAdAI",
   "dAUdEdIdIIdOdUbWORD SEPARATORaKHUDAWADI DIGIT EIGHTcFIVEcFOURcNINEcONEcSEVENcSIXcTHREEcTWO",
   "cZERObLETTER AcAAcAIcAUcBAcBBAcBHAcCAcCHAcDAcDDAcDDDAcDDHAcDHAcEcGAcGGAcGHAcHAcIcIIcJAcJHAcJJA",
   "cKAcKHAcLAcMAcNAcNGAcNNAcNYAcOcPAcPHAcRAcRRAcSAcSHAcTAcTHAcTTAcTTHAcUcUUcVAcYAbSIGN ANUSVARA",
   "cNUKTAcVIRAMAbVOWEL SIGN AAdAIdAUdEdIdIIdOdUdUUaKIMONOaKIP SIGNaKISSbMARK",
   "aKISSING CAT FACE WITH CLOSED EYESbFACEcWITH CLOSED EYESdSMILING EYESaKITEaKIWIFRUIT",
   "aKNEELING PERSONaKNOTaKOALAaKOREAN STANDARD SYMBOLaKRONOSaL B BAR SYMBOLaLAB COATaLABEL",
   "aLACROSSE STICK AND BALLaLADDERaLADY BEETLEaLANGUAGE TAGaLAO CANCELLATION MARKbDIGIT EIGHT",
   "cFIVEcFOURcNINEcONEcSEVENcSIXcTHREEcTWOcZERObELLIPSISbHO MOcNObKO LAbLETTER BOcCOcDOcFO FAY",
   "dFONdSUNGdTAMcHO SUNGdTAMcKHMU GOdNYOcKHO SUNGdTAMcKOcLOdLINGdLOOTcMOcNGOcNOcNYOcOcPALI BHA",
   "dCHAdDDAdDDHAdDHAdGHAdJHAdLLAdNNAdNYAdTTAdTTHAcPHO SUNGdTAMcPOcROcSANSKRIT SHAdSSAcSO SUNGdTAM",
   "cTHO SUNGdTAMcTOcWOcYObNIGGAHITAbSEMIVOWEL SIGN LOdNYObSIGN PALI VIRAMAbTONE MAI CATAWAdEKdTHO",
   "dTIbVOWEL SIGN AdAAdAIdAMdAYdEdEIdIdIIdMAI KANeKONdOdUdUUdYdYYaLARGE BLUE CIRCLEcDIAMOND",
   "cSQUAREbBROWN CIRCLEcSQUAREbCIRCLEbDOWN TACKbGREEN CIRCLEcSQUAREbLEFT TRIANGLE OPERATOR",
   "bONE DOT OVER TWO DOTS PUNCTUATIONcRING OVER TWO RINGS PUNCTUATIONbORANGE CIRCLEcDIAMOND",
   "cSQUAREbPURPLE CIRCLEcSQUAREbRED CIRCLEcSQUAREbTRIPLE VERTICAL BAR OPERATOR",
   "bTWO DOTS OVER ONE DOT PUNCTUATIONcRINGS OVER ONE RING PUNCTUATIONbUP TACKbYELLOW CIRCLE",
   "cSQUAREaLARGER THANcOR EQUAL TOaLARI SIGNaLAST QUARTER MOONdSYMBOLdWITH FACE",
   "aLATIN CAPITAL LETTER AeWITH ACUTEfBREVEgAND ACUTEhDOT BELOWhGRAVEhHOOK ABOVEhTILDEfCARON",
   "fCIRCUMFLEXgAND ACUTEhDOT BELOWhGRAVEhHOOK ABOVEhTILDEfDIAERESISgAND MACRONfDOT ABOVE",
   "hAND MACRONgBELOWfDOUBLE GRAVEfGRAVEfHOOK ABOVEfINVERTED BREVEfMACRONfOGONEKfRING ABOVE",
   "hAND ACUTEgBELOWfSTROKEfTILDEdAAdAEeWITH ACUTEfMACRONdAFRICAN DdALPHAdANGLICANA WdAOdAUdAV",
   "eWITH HORIZONTAL BARdAYdBeWITH DOT ABOVEgBELOWfFLOURISHfHOOKfLINE BELOWfSTROKEfTOPBARdBETA",
   "dBROKEN LdCeWITH ACUTEfBARfCARONfCEDILLAgAND ACUTEfCIRCUMFLEXfDOT ABOVEfHOOKfPALATAL HOOK",
   "fSTROKEdCHIdCLOSED INSULAR GdCONdCUATRILLOeWITH COMMAdDeWITH CARONfCEDILLAfCIRCUMFLEX BELOW",
   "fDOT ABOVEgBELOWfHOOKfLINE BELOWfSHORT STROKE OVERLAYfSMALL LETTER ZiWITH CARONfSTROKEfTOPBAR",
   "dDZeWITH CARONdEeWITH ACUTEfBREVEfCARONfCEDILLAgAND BREVEfCIRCUMFLEXgAND ACUTEhDOT BELOWhGRAVE",
   "hHOOK ABOVEhTILDEgBELOWfDIAERESISfDOT ABOVEgBELOWfDOUBLE GRAVEfGRAVEfHOOK ABOVEfINVERTED BREVE",
   "fMACRONgAND ACUTEhGRAVEfOGONEKfSTROKEfTILDEgBELOWdEGYPTOLOGICAL AINeALEFdENGdESHdETdETHdEZH",
   "eREVERSEDeWITH CARONdFeWITH DOT ABOVEfHOOKfSTROKEdGeWITH ACUTEfBREVEfCARONfCEDILLAfCIRCUMFLEX",
   "fDOT ABOVEfHOOKfMACRONfOBLIQUE STROKEfSTROKEdGAMMAdGHAdGLOTTAL AeIeSTOPeUdHeWITH BREVE BELOW",
   "fCARONfCEDILLAfCIRCUMFLEXfDESCENDERfDIAERESISfDOT ABOVEgBELOWfHOOKfSTROKEdHALF HdHENGdHWAIRdI",
   "eWITH ACUTEfBREVEfCARONfCIRCUMFLEXfDIAERESISgAND ACUTEfDOT ABOVEgBELOWfDOUBLE GRAVEfGRAVE",
   "fHOOK ABOVEfINVERTED BREVEfMACRONfOGONEKfSTROKEfTILDEgBELOWdINSULAR DeFeGeReSeTdIOTAdISdJ",
   "eWITH CIRCUMFLEXfCROSSED-TAILfSTROKEdKeWITH ACUTEfCARONfCEDILLAfDESCENDERfDIAGONAL STROKE",
   "fDOT BELOWfHOOKfLINE BELOWfOBLIQUE STROKEfSTROKEgAND DIAGONAL STROKEdLeWITH ACUTEfBARfBELT",
   "fCARONfCEDILLAfCIRCUMFLEX BELOWfDOT BELOWhAND MACRONfDOUBLE BARfHIGH STROKEfLINE BELOW",
   "fMIDDLE DOTgTILDEfSMALL LETTER JfSTROKEdLJdMeWITH ACUTEfDOT ABOVEgBELOWfHOOKdMIDDLE SCOTS S",
   "dMIDDLE-WELSH LLeVdNeWITH ACUTEfCARONfCEDILLAfCIRCUMFLEX BELOWfDESCENDERfDOT ABOVEgBELOWfGRAVE",
   "fLEFT HOOKfLINE BELOWfLONG RIGHT LEGfOBLIQUE STROKEfSMALL LETTER JfTILDEdNJdOeWITH ACUTEfBREVE",
   "fCARONfCIRCUMFLEXgAND ACUTEhDOT BELOWhGRAVEhHOOK ABOVEhTILDEfDIAERESISgAND MACRONfDOT ABOVE",
   "hAND MACRONgBELOWfDOUBLE ACUTEgGRAVEfGRAVEfHOOK ABOVEfHORNgAND ACUTEhDOT BELOWhGRAVE",
   "hHOOK ABOVEhTILDEfINVERTED BREVEfLONG STROKE OVERLAYfLOOPfMACRONgAND ACUTEhGRAVEfMIDDLE TILDE",
   "fOGONEKgAND MACRONfSTROKEgAND ACUTEfTILDEgAND ACUTEhDIAERESIShMACRONdOIdOLD POLISH OdOMEGAdOO",
   "dOPEN EeOdOUdPeWITH ACUTEfDOT ABOVEfFLOURISHfHOOKfSQUIRREL TAILfSTROKEgTHROUGH DESCENDERdQ",
   "eWITH DIAGONAL STROKEfSTROKE THROUGH DESCENDERdReROTUNDAeWITH ACUTEfCARONfCEDILLAfDOT ABOVE",
   "gBELOWhAND MACRONfDOUBLE GRAVEfINVERTED BREVEfLINE BELOWfOBLIQUE STROKEfSTROKEfTAIL",
   "dREVERSED C WITH DOTeEeHALF HeOPEN EdRUM ROTUNDAdSeWITH ACUTEgAND DOT ABOVEfCARON",
   "gAND DOT ABOVEfCEDILLAfCIRCUMFLEXfCOMMA BELOWfDOT ABOVEgBELOWhAND DOT ABOVEfHOOK",
   "fOBLIQUE STROKEfSHORT STROKE OVERLAYfSWASH TAILdSALTILLOdSCHWAdSCRIPT GdSHARP SdSIGMOID S",
   "dSMALL CAPITAL IeQ WITH HOOK TAILdTeWITH CARONfCEDILLAfCIRCUMFLEX BELOWfCOMMA BELOW",
   "fDIAGONAL STROKEfDOT ABOVEgBELOWfHOOKfLINE BELOWfRETROFLEX HOOKfSTROKEdTHORNeWITH STROKE",
   "gTHROUGH DESCENDERdTONE FIVEeSIXeTWOdTRESILLOdTURNED AeALPHAeHeINSULAR GeKeLeMeTeVdTZdUeBAR",
   "eWITH ACUTEfBREVEfCARONfCIRCUMFLEXgBELOWfDIAERESISgAND ACUTEhCARONhGRAVEhMACRONgBELOW",
   "fDOT BELOWfDOUBLE ACUTEgGRAVEfGRAVEfHOOK ABOVEfHORNgAND ACUTEhDOT BELOWhGRAVEhHOOK ABOVEhTILDE",
   "fINVERTED BREVEfMACRONgAND DIAERESISfOGONEKfRING ABOVEfSTROKEfTILDEgAND ACUTEgBELOWdUPSILONdV",
   "eWITH DIAGONAL STROKEfDOT BELOWfHOOKfTILDEdVENDdVISIGOTHIC ZdVOLAPUK AEeOEeUEdVYdWeWITH ACUTE",
   "fCIRCUMFLEXfDIAERESISfDOT ABOVEgBELOWfGRAVEfHOOKdWYNNdXeWITH DIAERESISfDOT ABOVEdYeWITH ACUTE",
   "fCIRCUMFLEXfDIAERESISfDOT ABOVEgBELOWfGRAVEfHOOKgABOVEfLOOPfMACRONfSTROKEfTILDEdYOGHdZ",
   "eWITH ACUTEfCARONfCIRCUMFLEXfDESCENDERfDOT ABOVEgBELOWfHOOKfLINE BELOWfPALATAL HOOKfSTROKE",
   "fSWASH TAILcLIGATURE IJdOEbCROSSbEPIGRAPHIC LETTER ARCHAIC MdI LONGAdINVERTED MdREVERSED FeP",
   "dSIDEWAYS IbLETTER AINcALVEOLAR CLICKcBIDENTAL PERCUSSIVEcBILABIAL CLICKdPERCUSSIVE",
   "cDENTAL CLICKcGLOTTAL STOPeWITH STROKEcINVERTED GLOTTAL STOPfWITH CURLgSTROKEcLATERAL CLICK",
   "cPHARYNGEAL VOICED FRICATIVEcRETROFLEX CLICKeWITH RETROFLEX HOOKcREVERSED ESH LOOP",
   "dGLOTTAL STOP WITH STROKEcSINOLOGICAL DOTcSMALL CAPITAL AeAEeBeBARRED BeCeDeEeETHeEZHeFeG",
   "fWITH HOOKeHeIeINVERTED ReJeKeLfWITH BELTgSTROKEeMeNeOeOEeOPEN OeOUePeQeRfWITH RIGHT LEG",
   "eREVERSED NfReRUMeSeTeTURNED EfGfKfMfReUeVeWeYeZcSTRETCHED CeWITH CURLcTWO WITH STROKE",
   "cVOICED LARYNGEAL SPIRANTcWYNNcYRbSMALL CAPITAL LETTER I WITH STROKEeU WITH STROKEcLETTER A",
   "eREVERSED-SCHWAeWITH ACUTEfBREVEgAND ACUTEhDOT BELOWhGRAVEhHOOK ABOVEhTILDEfCARONfCIRCUMFLEX",
   "gAND ACUTEhDOT BELOWhGRAVEhHOOK ABOVEhTILDEfDIAERESISgAND MACRONfDOT ABOVEhAND MACRONgBELOW",
   "fDOUBLE GRAVEfGRAVEfHOOK ABOVEfINVERTED BREVEfMACRONfOGONEKfRETROFLEX HOOKfRIGHT HALF RING",
   "fRING ABOVEhAND ACUTEgBELOWfSTROKEfTILDEdAAdAEeWITH ACUTEfMACRONdALPHAeWITH RETROFLEX HOOK",
   "dANGLICANA WdAOdAUdAVeWITH HORIZONTAL BARdAYdBeWITH DOT ABOVEgBELOWfFLOURISHfHOOKfLINE BELOW",
   "fMIDDLE TILDEfPALATAL HOOKfSTROKEfTOPBARdBARRED ALPHAeEeOdBASELINE ESHdBETAdBLACKLETTER EeO",
   "fWITH STROKEdBOTTOM HALF OdBROKEN LdCeWITH ACUTEfBARfCARONfCEDILLAgAND ACUTEfCIRCUMFLEXfCURL",
   "fDOT ABOVEfHOOKfPALATAL HOOKfRETROFLEX HOOKfSTROKEdCHIeWITH LOW LEFT SERIFgRIGHT RING",
   "dCLOSED INSULAR GeOMEGAeOPEN EeREVERSED OPEN EdCONdCUATRILLOeWITH COMMAdDeWITH CARONfCEDILLA",
   "fCIRCUMFLEX BELOWfCURLfDOT ABOVEgBELOWfHOOKgAND TAILfLINE BELOWfMIDDLE TILDEfPALATAL HOOK",
   "fSHORT STROKE OVERLAYfSTROKEfTAILfTOPBARdDB DIGRAPHdDELTAdDEZH DIGRAPHfWITH PALATAL HOOK",
   "gRETROFLEX HOOKdDOTLESS IeJfWITH STROKEhAND HOOKdDOUBLE RfWITH CROSSED-TAILeTHORNeWYNNdDUMdDZ",
   "eDIGRAPHfWITH CURLgRETROFLEX HOOKeWITH CARONdEeWITH ACUTEfBREVEfCARONfCEDILLAgAND BREVE",
   "fCIRCUMFLEXgAND ACUTEhDOT BELOWhGRAVEhHOOK ABOVEhTILDEgBELOWfDIAERESISfDOT ABOVEgBELOW",
   "fDOUBLE GRAVEfFLOURISHfGRAVEfHOOK ABOVEfINVERTED BREVEfMACRONgAND ACUTEhGRAVEfNOTCHfOGONEK",
   "fRETROFLEX HOOKfSTROKEfTILDEgBELOWdEGYPTOLOGICAL AINeALEFdENGeWITH CROSSED-TAILfPALATAL HOOK",
   "dESHeWITH CURLfDOUBLE BARhAND CURLfPALATAL HOOKfRETROFLEX HOOKdETdETHdEZHeREVERSEDeWITH CARON",
   "fCURLfPALATAL HOOKfRETROFLEX HOOKfTAILdFeWITH DOT ABOVEfHOOKfMIDDLE TILDEfPALATAL HOOKfSTROKE",
   "dFENG DIGRAPHfWITH TRILLdGeWITH ACUTEfBREVEfCARONfCEDILLAfCIRCUMFLEXfDOT ABOVEfHOOKfMACRON",
   "fOBLIQUE STROKEfPALATAL HOOKfSTROKEdGAMMAdGHAdGLOTTAL AeIeSTOPeUdHeWITH BREVE BELOWfCARON",
   "fCEDILLAfCIRCUMFLEXfDESCENDERfDIAERESISfDOT ABOVEgBELOWfHOOKfLINE BELOWfPALATAL HOOKfSTROKE",
   "dHALF HdHENGeWITH HOOKdHVdIeWITH ACUTEfBREVEfCARONfCIRCUMFLEXfDIAERESISgAND ACUTEfDOT BELOW",
   "fDOUBLE GRAVEfGRAVEfHOOK ABOVEfINVERTED BREVEfMACRONfOGONEKfRETROFLEX HOOKfSTROKE",
   "gAND RETROFLEX HOOKfTILDEgBELOWdINSULAR DeFeGeReSeTdINVERTED ALPHAeOEdIOTAeWITH STROKE",
   "dIOTIFIED EdISdJeWITH CARONfCIRCUMFLEXfCROSSED-TAILfSTROKEdKeWITH ACUTEfCARONfCEDILLA",
   "fDESCENDERfDIAGONAL STROKEfDOT BELOWfHOOKfLINE BELOWfOBLIQUE STROKEfPALATAL HOOKfSTROKE",
   "gAND DIAGONAL STROKEdKRAdLeWITH ACUTEfBARfBELTgAND PALATAL HOOKfCARONfCEDILLAfCIRCUMFLEX BELOW",
   "fCURLfDOT BELOWhAND MACRONfDOUBLE BARgMIDDLE TILDEfFISHHOOKfHIGH STROKEfINVERTED LAZY S",
   "fLINE BELOWfMIDDLE DOTgRINGgTILDEfPALATAL HOOKfRETROFLEX HOOKhAND BELTfSTROKE",
   "dLAMBDA WITH STROKEdLENIS FdLEZHeWITH RETROFLEX HOOKdLJdLONG SfWITH DIAGONAL STROKEgDOT ABOVE",
   "gHIGH STROKEdLS DIGRAPHdLUMdLZ DIGRAPHdMeWITH ACUTEfCROSSED-TAILfDOT ABOVEgBELOWfHOOK",
   "fMIDDLE TILDEfPALATAL HOOKdMIDDLE SCOTS SdMIDDLE-WELSH LLeVdMUMdNePRECEDED BY APOSTROPHE",
   "eWITH ACUTEfCARONfCEDILLAfCIRCUMFLEX BELOWfCROSSED-TAILfCURLfDESCENDERfDOT ABOVEgBELOWfGRAVE",
   "fLEFT HOOKfLINE BELOWfLONG RIGHT LEGfMIDDLE TILDEfOBLIQUE STROKEfPALATAL HOOKfRETROFLEX HOOK",
   "fTILDEdNJdNUMdOeWITH ACUTEfBREVEfCARONfCIRCUMFLEXgAND ACUTEhDOT BELOWhGRAVEhHOOK ABOVEhTILDE",
   "fDIAERESISgAND MACRONfDOT ABOVEhAND MACRONgBELOWfDOUBLE ACUTEgGRAVEfGRAVEfHOOK ABOVEfHORN",
   "gAND ACUTEhDOT BELOWhGRAVEhHOOK ABOVEhTILDEfINVERTED BREVEfLONG STROKE OVERLAYfLOOP",
   "fLOW RING INSIDEfMACRONgAND ACUTEhGRAVEfOGONEKgAND MACRONfRETROFLEX HOOKfSTROKEgAND ACUTE",
   "fTILDEgAND ACUTEhDIAERESIShMACRONdOIdOLD POLISH OdOMEGAdOOdOPEN EfWITH RETROFLEX HOOKeO",
   "fWITH RETROFLEX HOOKgSTROKEeOEdOUdPeWITH ACUTEfDOT ABOVEfFLOURISHfHOOKfMIDDLE TILDE",
   "fPALATAL HOOKfSQUIRREL TAILfSTROKEgTHROUGH DESCENDERdPHIdQeWITH DIAGONAL STROKEfHOOKgTAIL",
   "fSTROKE THROUGH DESCENDERdQP DIGRAPHdReROTUNDAeWITH ACUTEfCARONfCEDILLAfCROSSED-TAILfDOT ABOVE",
   "gBELOWhAND MACRONfDOUBLE GRAVEfFISHHOOKgAND MIDDLE TILDEhPALATAL HOOKfINVERTED BREVE",
   "fLINE BELOWfLONG LEGfMIDDLE TILDEfOBLIQUE STROKEfPALATAL HOOKfSTROKEfTAILeWITHOUT HANDLE",
   "dRAMS HORNdREVERSED CfWITH DOTeEeENGeHALF HeKeOPEN EgWITH HOOKhRETROFLEX HOOKeR WITH FISHHOOK",
   "eSCRIPT GdRUMeROTUNDAdSeWITH ACUTEgAND DOT ABOVEfCARONgAND DOT ABOVEfCEDILLAfCIRCUMFLEX",
   "fCOMMA BELOWfCURLfDOT ABOVEgBELOWhAND DOT ABOVEfHOOKfMIDDLE TILDEfOBLIQUE STROKEfPALATAL HOOK",
   "fSHORT STROKE OVERLAYfSWASH TAILdSAKHA YATdSALTILLOdSCHWAeWITH HOOKfRETROFLEX HOOKdSCRIPT G",
   "fWITH CROSSED-TAILeRfWITH RINGdSHARP SdSIDEWAYS DIAERESIZED UeOfWITH STROKEeOPEN OeTURNED MeU",
   "dSIGMOID SdSQUAT REVERSED ESHdSTIRRUP RdTeWITH CARONfCEDILLAfCIRCUMFLEX BELOWfCOMMA BELOWfCURL",
   "fDIAERESISfDIAGONAL STROKEfDOT ABOVEgBELOWfHOOKgAND RETROFLEX HOOKfLINE BELOWfMIDDLE TILDE",
   "fPALATAL HOOKfRETROFLEX HOOKfSTROKEdTAILLESS PHIdTC DIGRAPH WITH CURLdTESH DIGRAPH",
   "fWITH PALATAL HOOKgRETROFLEX HOOKdTH WITH STRIKETHROUGHdTHORNeWITH STROKEgTHROUGH DESCENDER",
   "dTONE FIVEeSIXeTWOdTOP HALF OdTRESILLOdTS DIGRAPHfWITH RETROFLEX HOOKdTUMdTURNED AeAEeALPHA",
   "eDELTAeEeGeHfWITH FISHHOOKhAND TAILeIeINSULAR GeKeLeMfWITH LONG LEGeO OPEN-OgWITH STROKEeOE",
   "fWITH HORIZONTAL STROKEgSTROKEeOPEN EeRfWITH HOOKgLONG LEGiAND RETROFLEX HOOKgMIDDLE TILDE",
   "gPALATAL HOOKgTAILeTfWITH CURLeUIeVeWeYfWITH BELTdTZdUeBARfWITH SHORT RIGHT LEGeWITH ACUTE",
   "fBREVEfCARONfCIRCUMFLEXgBELOWfDIAERESISgAND ACUTEhCARONhGRAVEhMACRONgBELOWfDOT BELOW",
   "fDOUBLE ACUTEgGRAVEfGRAVEfHOOK ABOVEfHORNgAND ACUTEhDOT BELOWhGRAVEhHOOK ABOVEhTILDE",
   "fINVERTED BREVEfLEFT HOOKfMACRONgAND DIAERESISfOGONEKfRETROFLEX HOOKfRING ABOVE",
   "fSHORT RIGHT LEGfSTROKEfTILDEgAND ACUTEgBELOWdUEdUIdUMdUOdUPSILONeWITH STROKEdVeWITH CURL",
   "fDIAGONAL STROKEfDOT BELOWfHOOKfPALATAL HOOKfRIGHT HOOKfTILDEdVENDdVISIGOTHIC ZdVOLAPUK AEeOE",
   "eUEdVYdWeWITH ACUTEfCIRCUMFLEXfDIAERESISfDOT ABOVEgBELOWfGRAVEfHOOKfRING ABOVEdX",
   "eWITH DIAERESISfDOT ABOVEfLONG LEFT LEGiAND LOW RIGHT RINGiWITH SERIFfLOW RIGHT RING",
   "fPALATAL HOOKdYeWITH ACUTEfCIRCUMFLEXfDIAERESISfDOT ABOVEgBELOWfGRAVEfHOOKgABOVEfLOOPfMACRON",
   "fRING ABOVEfSHORT RIGHT LEGfSTROKEfTILDEdYOGHdZeWITH ACUTEfCARONfCIRCUMFLEXfCURLfDESCENDER",
   "fDOT ABOVEgBELOWfHOOKfLINE BELOWfMIDDLE TILDEfPALATAL HOOKfRETROFLEX HOOKfSTROKEfSWASH TAIL",
   "cLIGATURE FFdFFIdFFLdFIdFLdIJdLONG S TdOEdSTbSUBSCRIPT SMALL LETTER AeEeHeIeJeKeLeMeNeOePeReS",
   "eSCHWAeTeUeVeXaLEAF FLUTTERING IN WINDaLEAFY GREENaLEDGER",
   "aLEFT AND LOWER AND RIGHT TRIANGULAR THREE QUARTERS BLOCKdONE EIGHTH BLOCK",
   "cRIGHT DOUBLE TURNSTILEdTACKdTRIANGULAR HALF BLOCK",
   "cUPPER AND RIGHT TRIANGULAR THREE QUARTERS BLOCKdONE EIGHTH BLOCKbANGER BUBBLEbANGLE BRACKET",
   "dWITH DOTbARC LESS-THAN BRACKETbARROW WITH CIRCLED PLUSdSMALL CIRCLE",
   "bBARB DOWN RIGHT BARB DOWN HARPOONfUP HARPOONcUP RIGHT BARB DOWN HARPOONfUP HARPOON",
   "bBLACK LENTICULAR BRACKETcTORTOISE SHELL BRACKETbCEILINGbCLOSED ENTRYbCORNER BRACKET",
   "bCURLY BRACKETdLOWER HOOKdMIDDLE PIECEdUPPER HOOKbDOTTED SUBSTITUTION BRACKET",
   "bDOUBLE ANGLE BRACKETcPARENTHESIScQUOTATION MARKcWIGGLY FENCEbFISH TAILbFIVE EIGHTHS BLOCK",
   "bFLOORbHALF BLACK CIRCLEdSTARcBLOCKcCIRCLEdWITH DOTeFOUR DOTSeTHREE DOTSeTWO DOTScFOLDER",
   "cINVERSE MEDIUM SHADE AND RIGHT HALF BLOCKcMEDIUM SHADEcRUNNING MANbHAND TELEPHONE RECEIVER",
   "bLOW PARAPHRASE BRACKETbLUGGAGEbMULTIMAPbNORMAL FACTOR SEMIDIRECT PRODUCTbONE EIGHTH BLOCK",
   "cQUARTER BLOCKbOUTER JOINbPARENTHESIScEXTENSIONcLOWER HOOKcUPPER HOOKbRAISED OMISSION BRACKET",
   "bRIGHT ARROWdTHROUGH SMALL CIRCLEdWITH DOUBLE VERTICAL STROKEeSTROKEeVERTICAL STROKE",
   "cBLACK ARROWcDOUBLE ARROWeWITH STROKEfVERTICAL STROKEcOPEN-HEADED ARROWcSANS-SERIF ARROW",
   "cTRIANGLE-HEADED ARROWcWAVE ARROWcWHITE ARROWbS-SHAPED BAG DELIMITERbSEMIDIRECT PRODUCT",
   "bSEVEN EIGHTHS BLOCKbSIDEWAYS U BRACKETbSINGLE QUOTATION MARKbSPEECH BUBBLEbSQUARE BRACKET",
   "dEXTENSIONdLOWER CORNERdUPPER CORNERdWITH DOUBLE STROKEeQUILLeSTROKEeTICK IN BOTTOM CORNER",
   "gTOP CORNEReUNDERBARbSUBSTITUTION BRACKETbTACKbTHIRD WHITE RIGHT POINTING INDEXbTHOUGHT BUBBLE",
   "bTHREE EIGHTHS BLOCKcQUARTERS BLOCKbTORTOISE SHELL BRACKETbTRANSPOSITION BRACKET",
   "bTRIANGLE BESIDE VERTICAL BARbTRIANGULAR ONE QUARTER BLOCKbVERTICAL BAR WITH QUILLcBOX LINE",
   "bWHITE CORNER BRACKETcCURLY BRACKETcLENTICULAR BRACKETcPARENTHESIScSQUARE BRACKET",
   "cTORTOISE SHELL BRACKETbWIGGLY FENCEbWRITING HANDaLEFT-FACING ARMENIAN ETERNITY SIGNbFIST",
   "bSVASTI SIGNdWITH DOTSaLEFT-HANDED INTERLACED PENTAGRAMaLEFT-POINTING ANGLE BRACKET",
   "bCURVED ANGLE BRACKETbDOUBLE ANGLE QUOTATION MARKbMAGNIFYING GLASS",
   "aLEFT-SHADED WHITE RIGHTWARDS ARROWaLEFT-SIDE ARC ANTICLOCKWISE ARROWaLEFT-TO-RIGHT EMBEDDING",
   "bISOLATEbMARKbOVERRIDEaLEFTWARDS ARROWcABOVE ALMOST EQUAL TOdREVERSE ALMOST EQUAL TO",
   "eTILDE OPERATORdSHORT RIGHTWARDS ARROWdTILDE OPERATORcAND UPPER AND LOWER ONE EIGHTH BLOCK",
   "cFROM BAReTO BLACK DIAMONDcOVER RIGHTWARDS ARROWcTHROUGH LESS-THANdSUBSETdXcTO BAR",
   "eOVER RIGHTWARDS ARROW TO BARdBLACK DIAMONDcWITH DOTTED STEMdDOUBLE VERTICAL STROKE",
   "dEQUILATERAL ARROWHEADdHOOKdLARGE TRIANGLE ARROWHEADdLOOPdMEDIUM TRIANGLE ARROWHEAD",
   "dNOTCHED TAILdPLUS BELOWdSMALL EQUILATERAL ARROWHEADeTRIANGLE ARROWHEADdSTROKEdTAIL",
   "eWITH DOUBLE VERTICAL STROKEfVERTICAL STROKEdTIP DOWNWARDSeUPWARDSdVERTICAL STROKEbARROW-TAIL",
   "bBACK-TILTED SHADOWED WHITE ARROWbBLACK ARROWcCIRCLED WHITE ARROWbBOTTOM-SHADED WHITE ARROW",
   "bCOMPRESSED ARROWbDASHED ARROWbDOUBLE ARROWdFROM BARdWITH STROKEeVERTICAL STROKEcARROW-TAIL",
   "cDASH ARROWbFINGER-POST ARROWbFRONT-TILTED SHADOWED WHITE ARROWbHAND",
   "bHARPOON OVER RIGHTWARDS HARPOONcWITH BARB DOWN ABOVE RIGHTWARDS HARPOON WITH BARB DOWN",
   "fBELOW LONG DASHfFROM BARfTO BAReDOWNWARDSeUP ABOVE LEFTWARDS HARPOON WITH BARB DOWNgLONG DASH",
   "gRIGHTWARDS HARPOON WITH BARB UPfFROM BARfTO BAReUPWARDSbHEAVY ARROWcCOMPRESSED ARROW",
   "bLEFT-SHADED WHITE ARROWbOPEN-HEADED ARROWbPAIRED ARROWSbQUADRUPLE ARROW",
   "bRIGHT-SHADED WHITE ARROWbROCKETbSANS-SERIF ARROWbSQUARED ARROWbSQUIGGLE ARROW",
   "bTOP SHADED WHITE ARROWbTRIANGLE ARROWHEADbTRIANGLE-HEADED ARROW",
   "dOVER RIGHTWARDS TRIANGLE-HEADED ARROWdTO BARdWITH BOLD SHAFTeDOUBLE HORIZONTAL STROKE",
   "fVERTICAL STROKEeHEAVY SHAFTeLONG TIP DOWNWARDSgUPWARDSeMEDIUM SHAFTeNARROW SHAFT",
   "eVERY HEAVY SHAFTcDASHED ARROWcPAIRED ARROWSbTRIPLE ARROWcDASH ARROWbTWO HEADED ARROW",
   "bTWO-HEADED ARROW FROM BARdWITH DOUBLE VERTICAL STROKEeTAILfWITH DOUBLE VERTICAL STROKE",
   "gVERTICAL STROKEeTRIANGLE ARROWHEADSeVERTICAL STROKEcTRIPLE DASH ARROWbWAVE ARROWbWHITE ARROW",
   "dWITHIN TRIANGLE ARROWHEADaLEGaLEMONaLEOaLEOPARDaLEPCHA CONSONANT SIGN KdKANGdLdMdNdNYIN-DOdP",
   "dRdTbDIGIT EIGHTcFIVEcFOURcNINEcONEcSEVENcSIXcTHREEcTWOcZERObLETTER AcBAcBLAcCAcCHAcDAcDDAcDZA",
   "cFAcFLAcGAcGLAcHAcHLAcJAcKAcKHAcKLAcLAcMAcMLAcNAcNGAcNYAcPAcPHAcPLAcRAcSAcSHAcTAcTHAcTSAcTSHA",
   "cTTAcTTHAcVAcWAcYAbPUNCTUATION CER-WAcNYET THYOOM TA-ROLcTA-ROLcTSHOOKdCER-WAbSIGN NUKTAcRAN",
   "bSUBJOINED LETTER RAdYAbVOWEL SIGN AAdEdIdOdOOdUdUU",
   "aLESS-THAN ABOVE DOUBLE-LINE EQUAL ABOVE GREATER-THANcGREATER-THAN ABOVE DOUBLE-LINE EQUAL",
   "cLEFTWARDS ARROWcSIMILAR ABOVE GREATER-THANdOR EQUAL",
   "cSLANTED EQUAL ABOVE GREATER-THAN ABOVE SLANTED EQUALbAND NOT APPROXIMATE",
   "cSINGLE-LINE NOT EQUAL TObBUT NOT EQUAL TOdEQUIVALENT TObCLOSED BY CURVEeABOVE SLANTED EQUAL",
   "bEQUAL TO OR GREATER-THANbOR APPROXIMATEcEQUAL TOcEQUIVALENT TOcGREATER-THANcSLANTED EQUAL TO",
   "fWITH DOT ABOVEiRIGHThINSIDEbOVER EQUAL TObSIGNbWITH CIRCLE INSIDEcDOTcQUESTION MARK ABOVE",
   "aLEVEL SLIDERaLFaLIBRAaLIGATURE OPEN ET ORNAMENTaLIGHT CHECK MARKbEIGHT SPOKED ASTERISK",
   "bFIVE POINTED BLACK STARcSPOKED ASTERISKbFOUR POINTED BLACK CUSPeSTARbGREEK CROSS",
   "bLEFT TORTOISE SHELL BRACKET ORNAMENTbRAILbRIGHT TORTOISE SHELL BRACKET ORNAMENTbSALTIREbSHADE",
   "bSIX SPOKED ASTERISKbTHREE POINTED BLACK STARbTWELVE POINTED BLACK STARbVERTICAL BAR",
   "bWHITE SQUAREaLIGHTNINGbMOODcBUBBLEaLIMBU DIGIT EIGHTcFIVEcFOURcNINEcONEcSEVENcSIXcTHREEcTWO",
   "cZERObEXCLAMATION MARKbLETTER BAcBHAcCAcCHAcDAcDHAcGAcGHAcGYANcHAcJAcJHAcKAcKHAcLAcMAcNAcNGA",
   "cPAcPHAcRAcSAcSHAcSSAcTAcTHAcTRAcWAcYAcYANbQUESTION MARKbSIGN KEMPHRENGcLOOcMUKPHRENGcSA-I",
   "bSMALL LETTER ANUSVARAdKAdLAdMAdNAdNGAdPAdRAdTAbSUBJOINED LETTER RAdWAdYAbVOWEL SIGN AdAIdAUdE",
   "dEEdIdOdOOdUbVOWEL-CARRIER LETTERaLIMITED LIABILITY SIGNaLINE FEED",
   "bINTEGRATION NOT INCLUDING THE POLEcWITH RECTANGULAR PATH AROUND POLE",
   "dSEMICIRCULAR PATH AROUND POLEbSEPARATORbTABULATIONcSETaLINEAR A SIGN A028BdA100-102dA120B",
   "dA131CdA301dA302dA303dA304dA305dA306dA307dA308dA309AdA309BdA309CdA310dA311dA312dA313AdA313B",
   "dA313CdA314dA315dA316dA317dA318dA319dA320dA321dA322dA323dA324dA325dA326dA327dA328dA329dA330",
   "dA331dA332dA333dA334dA335dA336dA337dA338dA339dA340dA341dA342dA343dA344dA345dA346dA347dA348",
   "dA349dA350dA351dA352dA353dA354dA355dA356dA357dA358dA359dA360dA361dA362dA363dA364dA365dA366",
   "dA367dA368dA369dA370dA371dA400-VASdA401-VASdA402-VASdA403-VASdA404-VASdA405-VASdA406-VAS",
   "dA407-VASdA408-VASdA409-VASdA410-VASdA411-VASdA412-VASdA413-VASdA414-VASdA415-VASdA416-VAS",
   "dA417-VASdA418-VASdA501dA502dA503dA504dA505dA506dA508dA509dA510dA511dA512dA513dA515dA516dA520",
   "dA521dA523dA524dA525dA526dA527dA528dA529dA530dA531dA532dA534dA535dA536dA537dA538dA539dA540",
   "dA541dA542dA545dA547dA548dA549dA550dA551dA552dA553dA554dA555dA556dA557dA559dA563dA564dA565",
   "dA566dA568dA569dA570dA571dA572dA573dA574dA575dA576dA577dA578dA579dA580dA581dA582dA583dA584",
   "dA585dA586dA587dA588dA589dA591dA592dA594dA595dA596dA598dA600dA601dA602dA603dA604dA606dA608",
   "dA609dA610dA611dA612dA613dA614dA615dA616dA617dA618dA619dA620dA621dA622dA623dA624dA626dA627",
   "dA628dA629dA634dA637dA638dA640dA642dA643dA644dA645dA646dA648dA649dA651dA652dA653dA654dA655",
   "dA656dA657dA658dA659dA660dA661dA662dA663dA664dA701 AdA702 BdA703 DdA704 EdA705 FdA706 HdA707 J",
   "dA708 KdA709 LdA709-2 L2dA709-3 L3dA709-4 L4dA709-6 L6dA710 WdA711 XdA712 YdA713 OMEGA",
   "dA714 ABBdA715 BBdA717 DDdA726 EYYYdA732 JEdA800dA801dA802dA803dA804dA805dA806dA807dAB001",
   "dAB002dAB003dAB004dAB005dAB006dAB007dAB008dAB009dAB010dAB011dAB013dAB016dAB017dAB020dAB021",
   "dAB021FdAB021MdAB022dAB022FdAB022MdAB023dAB023MdAB024dAB026dAB027dAB028dAB029dAB030dAB031",
   "dAB034dAB037dAB038dAB039dAB040dAB041dAB044dAB045dAB046dAB047dAB048dAB049dAB050dAB051dAB053",
   "dAB054dAB055dAB056dAB057dAB058dAB059dAB060dAB061dAB065dAB066dAB067dAB069dAB070dAB073dAB074",
   "dAB076dAB077dAB078dAB079dAB080dAB081dAB082dAB085dAB086dAB087dAB118dAB120dAB122dAB123dAB131A",
   "dAB131BdAB164dAB171dAB180dAB188dAB191bB IDEOGRAM B100 MANdB102 WOMANdB104 DEERdB105 EQUID",
   "dB105F MAREdB105M STALLIONdB106F EWEdB106M RAMdB107F SHE-GOATdB107M HE-GOATdB108F SOW",
   "dB108M BOARdB109F COWdB109M BULLdB120 WHEATdB121 BARLEYdB122 OLIVEdB123 SPICEdB125 CYPERUS",
   "dB130 OILdB131 WINEdB132dB140 BRONZEdB141 GOLDdB142dB145 WOOLdB146dB150dB151 HORNdB152dB153",
   "dB154dB157dB158dB159 CLOTHdB160dB161dB162 GARMENTdB163 ARMOURdB164dB165dB166dB167dB168dB169",
   "dB170dB171dB172dB173 MONTHdB174dB176 TREEdB177dB178dB179dB180dB181dB182dB183dB184dB185dB189",
   "dB190dB191 HELMETdB220 FOOTSTOOLdB225 BATHTUBdB230 SPEARdB231 ARROWdB232dB233 SWORDdB234dB236",
   "dB240 WHEELED CHARIOTdB241 CHARIOTdB242 CHARIOT FRAMEdB243 WHEELdB245dB246dB248dB249dB251dB252",
   "dB253dB254 DARTdB255dB256dB257dB258dB259dVESSEL B155eB200eB201eB202eB203eB204eB205eB206eB207",
   "eB208eB209eB210eB211eB212eB213eB214eB215eB216eB217eB218eB219eB221eB222eB226eB227eB228eB229",
   "eB250eB305cMONOGRAM B127 KAPOdB128 KANAKOdB133 AREPAdB135 MERIdB156 TURO2dB247 DIPTE",
   "cSYLLABLE B001 DAdB002 ROdB003 PAdB004 TEdB005 TOdB006 NAdB007 DIdB008 AdB009 SEdB010 U",
   "dB011 POdB012 SOdB013 MEdB014 DOdB015 MOdB016 QAdB017 ZAdB020 ZOdB021 QIdB023 MUdB024 NE",
   "dB025 A2dB026 RUdB027 REdB028 IdB029 PU2dB030 NIdB031 SAdB032 QOdB033 RA3dB036 JOdB037 TI",
   "dB038 EdB039 PIdB040 WIdB041 SIdB042 WOdB043 A3dB044 KEdB045 DEdB046 JEdB048 NWAdB050 PU",
   "dB051 DUdB052 NOdB053 RIdB054 WAdB055 NUdB057 JAdB058 SUdB059 TAdB060 RAdB061 OdB062 PTE",
   "dB065 JUdB066 TA2dB067 KIdB068 RO2dB069 TUdB070 KOdB071 DWEdB072 PEdB073 MIdB074 ZEdB075 WE",
   "dB076 RA2dB077 KAdB078 QEdB080 MAdB081 KUdB085 AUdB087 TWEdB090 DWOdB091 TWOcSYMBOL B018dB019",
   "dB022dB034dB047dB049dB056dB063dB064dB079dB082dB083dB086dB089aLINK SYMBOLaLINKED PAPERCLIPS",
   "aLION FACEaLIPSaLIPSTICKaLIRA SIGNaLISU LETTER AcAEcBAcCAcCHAcDAcDZAcEcEUcFAcGAcGHAcHAcHHAcI",
   "cJAcKAcKHAcLAcMAcNAcNGAcOcOEcPAcPHAcSAcSHAcTAcTHAcTONE MYA BOeCYAeJEUeNAeTIdNA POcTSAcTSHAcU",
   "cUEcUHcWAcXAcYAcYHAcZAcZHAbPUNCTUATION COMMAcFULL STOPaLIVRE TOURNOIS SIGNaLIZARDaLLAMA",
   "aLOBSTERaLOCKbWITH INK PENaLOCKING-SHIFT ONEbZEROaLOGICAL ANDcWITH DOT ABOVEdDOUBLE OVERBAR",
   "eUNDERBARdHORIZONTAL DASHdMIDDLE STEMdUNDERBARbORcOVERLAPPING LOGICAL ANDcWITH DOT ABOVE",
   "dDOUBLE OVERBAReUNDERBARdHORIZONTAL DASHdMIDDLE STEMaLOLLIPOP",
   "aLONG DASH FROM LEFT MEMBER OF DOUBLE VERTICALbDIVISIONbDRUMbLEFT RIGHT ARROWdDOUBLE ARROW",
   "cTACKbLEFTWARDS ARROWdFROM BARcDOUBLE ARROWeFROM BARcSQUIGGLE ARROWbRIGHT TACK",
   "bRIGHTWARDS ARROWdFROM BARcDOUBLE ARROWeFROM BARcSQUIGGLE ARROWaLOTION BOTTLEaLOTUS",
   "aLOUDLY CRYING FACEaLOVE HOTELbLETTERaLOW ASTERISKbBATTERYbBRIGHTNESS SYMBOL",
   "bDOUBLE PRIME QUOTATION MARKbKAVYKAcWITH DOTbLINEaLOWER BLADE SCISSORSbFIVE EIGHTHS BLOCK",
   "bHALF BLOCKcCIRCLEcINVERSE WHITE CIRCLEcMEDIUM SHADEbLEFT BALLPOINT PEN",
   "cBLOCK DIAGONAL LOWER MIDDLE LEFT TO LOWER CENTREjRIGHTeUPPER CENTRE TO LOWER MIDDLE RIGHT",
   "iRIGHThUPPER MIDDLE RIGHTfLEFT TO LOWER CENTREiMIDDLE RIGHThUPPER MIDDLE RIGHT",
   "fMIDDLE LEFT TO LOWER CENTREjMIDDLE RIGHTjRIGHTcCRAYONcFOUNTAIN PENcPAINTBRUSHcPENCIL",
   "cQUADRANT CIRCULAR ARCcSEMICIRCULAR ANTICLOCKWISE ARROWcTRIANGLEcTRIANGULAR MEDIUM SHADE",
   "bONE EIGHTH BLOCKcQUARTER BLOCKbRIGHT BLOCK DIAGONAL LOWER CENTRE TO LOWER MIDDLE RIGHT",
   "hUPPER MIDDLE RIGHTiRIGHTfLEFT TO LOWER MIDDLE RIGHThUPPER CENTREiMIDDLE RIGHT",
   "fMIDDLE LEFT TO UPPER CENTREjMIDDLE RIGHTjRIGHTeUPPER MIDDLE LEFT TO UPPER CENTREjRIGHT",
   "cCORNER WITH DOTcDROP-SHADOWED WHITE SQUAREcPENCILcQUADRANT CIRCULAR ARC",
   "cSEMICIRCULAR CLOCKWISE ARROWcSHADOWED WHITE CIRCLEeSQUAREcTRIANGLEcTRIANGULAR MEDIUM SHADE",
   "bSEVEN EIGHTHS BLOCKbTHREE EIGHTHS BLOCKcQUARTERS BLOCKbTRIANGULAR ONE QUARTER BLOCKaLOZENGE",
   "bDIVIDED BY HORIZONTAL RULEaLREaLRIaLRMaLROaLUGGAGEaLUNGSaLYCIAN LETTER AcANcBcBHcDcEcENcGcHcI",
   "cJcKcKKcLcMcMMcNcNNcPcQcRcScTcTHcTTcUcWcXcZaLYDIAN LETTER AcANcBcCcDcEcENcFcGcIcKcLcLYcMcNcNN",
   "cOcQcRcScSScTcTTcUcVcYbTRIANGULAR MARKaLYING FACEaMACRONaMAGEaMAGIC WANDaMAGNET",
   "aMAHAJANI ABBREVIATION SIGNbLETTER AcBAcBHAcCAcCHAcDAcDDAcDDHAcDHAcEcGAcGHAcHAcIcJAcJHAcKAcKHA",
   "cLAcMAcNAcNNAcNYAcOcPAcPHAcRAcRRAcSAcTAcTHAcTTAcTTHAcUcVAbLIGATURE SHRIbSECTION MARK",
   "bSIGN NUKTAaMAHJONG TILE AUTUMNcBACKcBAMBOOcCHRYSANTHEMUMcEAST WINDcEIGHT OF BAMBOOS",
   "eCHARACTERSeCIRCLEScFIVE OF BAMBOOSeCHARACTERSeCIRCLEScFOUR OF BAMBOOSeCHARACTERSeCIRCLES",
   "cGREEN DRAGONcJOKERcNINE OF BAMBOOSeCHARACTERSeCIRCLEScNORTH WINDcONE OF BAMBOOSeCHARACTERS",
   "eCIRCLEScORCHIDcPLUMcRED DRAGONcSEVEN OF BAMBOOSeCHARACTERSeCIRCLEScSIX OF BAMBOOSeCHARACTERS",
   "eCIRCLEScSOUTH WINDcSPRINGcSUMMERcTHREE OF BAMBOOSeCHARACTERSeCIRCLEScTWO OF BAMBOOS",
   "eCHARACTERSeCIRCLEScWEST WINDcWHITE DRAGONcWINTERaMAKASAR ANGKAbEND OF SECTIONbLETTER AcBAcCA",
   "cDAcGAcJAcKAcLAcMAcNAcNGAcNYAcPAcRAcSAcTAcVAcYAbPASSIMBANGbVOWEL SIGN EdIdOdU",
   "aMALAYALAM AU LENGTH MARKbDATE MARKbDIGIT EIGHTcFIVEcFOURcNINEcONEcSEVENcSIXcTHREEcTWOcZERO",
   "bFRACTION ONE EIGHTHdFIFTHdFORTIETHdHALFdONE-HUNDRED-AND-SIXTIETHdQUARTERdSIXTEENTHdTENTH",
   "dTWENTIETHcTHREE EIGHTIETHSdQUARTERSdSIXTEENTHSdTWENTIETHSbLETTER AcAAcAIcARCHAIC IIcAUcBAcBHA",
   "cCAcCHAcCHILLU KdLdLLdLLLdMdNdNNdRRdYcDAcDDAcDDHAcDHAcDOT REPHcEcEEcGAcGHAcHAcIcIIcJAcJHAcKA",
   "cKHAcLAcLLAcLLLAcMAcNAcNGAcNNAcNNNAcNYAcOcOOcPAcPHAcRAcRRAcSAcSHAcSSAcTAcTHAcTTAcTTHAcTTTAcU",
   "cUUcVAcVEDIC ANUSVARAcVOCALIC LdLLdRdRRcYAbNUMBER ONE HUNDREDdTHOUSANDcTENbSIGN ANUSVARA",
   "cAVAGRAHAcCANDRABINDUcCIRCULAR VIRAMAcCOMBINING ANUSVARA ABOVEcPARAcVERTICAL BAR VIRAMAcVIRAMA",
   "cVISARGAbVOWEL SIGN AAdAIdAUdEdEEdIdIIdOdOOdUdUUdVOCALIC LeLLeReRRaMALE AND FEMALE SIGNbSIGN",
   "bWITH STROKE AND MALE AND FEMALE SIGNdSIGNaMALTESE CROSSaMAMMOTHaMANbAND WOMAN HOLDING HANDS",
   "bDANCINGbIN BUSINESS SUIT LEVITATINGcTUXEDObWITH GUA PI MAOcTURBANaMANAT SIGN",
   "aMANDAIC AFFRICATION MARKbGEMINATION MARKbLETTER ABcADcAGcAHcAINcAKcAKSAcALcAMcANcAPcAQcARcAS",
   "cASHcASZcATcATTcAZcDUSHENNAcHALQAcINcITcKADcUSHENNAbPUNCTUATIONbVOCALIZATION MARKaMANGO",
   "aMANICHAEAN ABBREVIATION MARK ABOVEdBELOWbLETTER AAYINcALEPHcAYINcBETHcBHETHcDALETHcDHAMEDHcFE",
   "cGHIMELcGIMELcHEcHETHcJAYINcJHAYINcKAPHcKHAPHcLAMEDHcMEMcNUNcPEcQHOPHcQOPHcRESHcSADHEcSAMEKH",
   "cSHINcSSHINcTAWcTETHcTHAMEDHcWAWcXAPHcXOPHcYODHcZAYINcZHAYINbNUMBER FIVEcONEdHUNDREDcTEN",
   "cTWENTYbPUNCTUATION DOTdWITHIN DOTcDOUBLE DOT WITHIN DOTcFLEURONcLINE FILLERcSTARcTWO DOTS",
   "bSIGN UDaMANS SHOEaMANTELPIECE CLOCKaMANUAL WHEELCHAIRaMAP SYMBOL FOR LIGHTHOUSEaMAPLE LEAF",
   "aMARCHEN HEAD MARKbLETTER -AcAcBAcCAcCHAcDAcDZAcGAcHAcJAcKAcKHAcLAcMAcNAcNGAcNYAcPAcPHAcRAcSA",
   "cSHAcTAcTHAcTSAcTSHAcWAcYAcZAcZHAbMARK SHADbSIGN ANUSVARAcCANDRABINDUbSUBJOINED LETTER AdBAdCA",
   "dCHAdDAdDZAdGAdHAdJAdKAdKHAdLAdMAdNAdNGAdNYAdPAdPHAdRAdSAdSHAdTAdTHAdTSAdTSHAdWAdYAdZAdZHA",
   "bVOWEL SIGN AAdEdIdOdUaMARRIAGE SYMBOLaMARTIAL ARTS UNIFORMaMASARAM GONDI DIGIT EIGHTdFIVE",
   "dFOURdNINEdONEdSEVENdSIXdTHREEdTWOdZEROcLETTER AdAAdAIdAUdBAdBHAdCAdCHAdDAdDDAdDDHAdDHAdEdGA",
   "dGHAdHAdIdIIdJAdJHAdJNYAdKAdKHAdKSSAdLAdLLAdMAdNAdNGAdNNAdNYAdOdPAdPHAdRAdSAdSHAdSSAdTAdTHA",
   "dTRAdTTAdTTHAdUdUUdVAdYAcRA-KARAcREPHAcSIGN ANUSVARAdCANDRAdHALANTAdNUKTAdVISARGAcVIRAMA",
   "cVOWEL SIGN AAeAIeAUeEeIeIIeOeUeUUeVOCALIC RaMASCULINE ORDINAL INDICATORaMASK WORK SYMBOL",
   "aMASU MARKaMATE DRINKaMATHEMATICAL BOLD CAPITAL AdALPHAdBdBETAdCdCHIdDdDELTAdDIGAMMAdEdEPSILON",
   "dETAdFdGdGAMMAdHdIdIOTAdJdKdKAPPAdLdLAMDAdMdMUdNdNUdOdOMEGAdOMICRONdPdPHIdPIdPSIdQdRdRHOdS",
   "dSIGMAdTdTAUdTHETAeSYMBOLdUdUPSILONdVdWdXdXIdYdZdZETAcDIGIT EIGHTdFIVEdFOURdNINEdONEdSEVENdSIX",
   "dTHREEdTWOdZEROcEPSILON SYMBOLcFRAKTUR CAPITAL AeBeCeDeEeFeGeHeIeJeKeLeMeNeOePeQeReSeTeUeVeWeX",
   "eYeZdSMALL AeBeCeDeEeFeGeHeIeJeKeLeMeNeOePeQeReSeTeUeVeWeXeYeZcITALIC CAPITAL AeALPHAeBeBETAeC",
   "eCHIeDeDELTAeEeEPSILONeETAeFeGeGAMMAeHeIeIOTAeJeKeKAPPAeLeLAMDAeMeMUeNeNUeOeOMEGAeOMICRONeP",
   "ePHIePIePSIeQeReRHOeSeSIGMAeTeTAUeTHETAfSYMBOLeUeUPSILONeVeWeXeXIeYeZeZETAdEPSILON SYMBOL",
   "dKAPPA SYMBOLdNABLAdPARTIAL DIFFERENTIALdPHI SYMBOLdPI SYMBOLdRHO SYMBOLdSMALL AeALPHAeBeBETA",
   "eCeCHIeDeDELTAeEeEPSILONeETAeFeFINAL SIGMAeGeGAMMAeHeIeIOTAeJeKeKAPPAeLeLAMDAeMeMUeNeNUeO",
   "eOMEGAeOMICRONePePHIePIePSIeQeReRHOeSeSIGMAeTeTAUeTHETAeUeUPSILONeVeWeXeXIeYeZeZETA",
   "dTHETA SYMBOLcKAPPA SYMBOLcNABLAcPARTIAL DIFFERENTIALcPHI SYMBOLcPI SYMBOLcRHO SYMBOL",
   "cSCRIPT CAPITAL AeBeCeDeEeFeGeHeIeJeKeLeMeNeOePeQeReSeTeUeVeWeXeYeZdSMALL AeBeCeDeEeFeGeHeIeJ",
   "eKeLeMeNeOePeQeReSeTeUeVeWeXeYeZcSMALL AdALPHAdBdBETAdCdCHIdDdDELTAdDIGAMMAdEdEPSILONdETAdF",
   "dFINAL SIGMAdGdGAMMAdHdIdIOTAdJdKdKAPPAdLdLAMDAdMdMUdNdNUdOdOMEGAdOMICRONdPdPHIdPIdPSIdQdRdRHO",
   "dSdSIGMAdTdTAUdTHETAdUdUPSILONdVdWdXdXIdYdZdZETAcTHETA SYMBOLbDOUBLE-STRUCK CAPITAL AdBdDdEdF",
   "dGdIdJdKdLdMdOdSdTdUdVdWdXdYcDIGIT EIGHTdFIVEdFOURdNINEdONEdSEVENdSIXdTHREEdTWOdZEROcSMALL AdB",
   "dCdDdEdFdGdHdIdJdKdLdMdNdOdPdQdRdSdTdUdVdWdXdYdZbFALLING DIAGONALbFRAKTUR CAPITAL AdBdDdEdFdG",
   "dJdKdLdMdNdOdPdQdSdTdUdVdWdXdYcSMALL AdBdCdDdEdFdGdHdIdJdKdLdMdNdOdPdQdRdSdTdUdVdWdXdYdZ",
   "bITALIC CAPITAL AdALPHAdBdBETAdCdCHIdDdDELTAdEdEPSILONdETAdFdGdGAMMAdHdIdIOTAdJdKdKAPPAdL",
   "dLAMDAdMdMUdNdNUdOdOMEGAdOMICRONdPdPHIdPIdPSIdQdRdRHOdSdSIGMAdTdTAUdTHETAeSYMBOLdUdUPSILONdVdW",
   "dXdXIdYdZdZETAcEPSILON SYMBOLcKAPPA SYMBOLcNABLAcPARTIAL DIFFERENTIALcPHI SYMBOLcPI SYMBOL",
   "cRHO SYMBOLcSMALL AdALPHAdBdBETAdCdCHIdDdDELTAdDOTLESS IeJdEdEPSILONdETAdFdFINAL SIGMAdGdGAMMA",
   "dIdIOTAdJdKdKAPPAdLdLAMDAdMdMUdNdNUdOdOMEGAdOMICRONdPdPHIdPIdPSIdQdRdRHOdSdSIGMAdTdTAUdTHETAdU",
   "dUPSILONdVdWdXdXIdYdZdZETAcTHETA SYMBOLbLEFT ANGLE BRACKETcDOUBLE ANGLE BRACKET",
   "cFLATTENED PARENTHESIScWHITE SQUARE BRACKETdTORTOISE SHELL BRACKETbMONOSPACE CAPITAL AdBdCdDdE",
   "dFdGdHdIdJdKdLdMdNdOdPdQdRdSdTdUdVdWdXdYdZcDIGIT EIGHTdFIVEdFOURdNINEdONEdSEVENdSIXdTHREEdTWO",
   "dZEROcSMALL AdBdCdDdEdFdGdHdIdJdKdLdMdNdOdPdQdRdSdTdUdVdWdXdYdZbRIGHT ANGLE BRACKET",
   "cDOUBLE ANGLE BRACKETcFLATTENED PARENTHESIScWHITE SQUARE BRACKETdTORTOISE SHELL BRACKET",
   "bRISING DIAGONALbSANS-SERIF BOLD CAPITAL AeALPHAeBeBETAeCeCHIeDeDELTAeEeEPSILONeETAeFeGeGAMMA",
   "eHeIeIOTAeJeKeKAPPAeLeLAMDAeMeMUeNeNUeOeOMEGAeOMICRONePePHIePIePSIeQeReRHOeSeSIGMAeTeTAUeTHETA",
   "fSYMBOLeUeUPSILONeVeWeXeXIeYeZeZETAdDIGIT EIGHTeFIVEeFOUReNINEeONEeSEVENeSIXeTHREEeTWOeZERO",
   "dEPSILON SYMBOLdITALIC CAPITAL AfALPHAfBfBETAfCfCHIfDfDELTAfEfEPSILONfETAfFfGfGAMMAfHfIfIOTAfJ",
   "fKfKAPPAfLfLAMDAfMfMUfNfNUfOfOMEGAfOMICRONfPfPHIfPIfPSIfQfRfRHOfSfSIGMAfTfTAUfTHETAgSYMBOLfU",
   "fUPSILONfVfWfXfXIfYfZfZETAeEPSILON SYMBOLeKAPPA SYMBOLeNABLAePARTIAL DIFFERENTIALePHI SYMBOL",
   "ePI SYMBOLeRHO SYMBOLeSMALL AfALPHAfBfBETAfCfCHIfDfDELTAfEfEPSILONfETAfFfFINAL SIGMAfGfGAMMAfH",
   "fIfIOTAfJfKfKAPPAfLfLAMDAfMfMUfNfNUfOfOMEGAfOMICRONfPfPHIfPIfPSIfQfRfRHOfSfSIGMAfTfTAUfTHETAfU",
   "fUPSILONfVfWfXfXIfYfZfZETAeTHETA SYMBOLdKAPPA SYMBOLdNABLAdPARTIAL DIFFERENTIALdPHI SYMBOL",
   "dPI SYMBOLdRHO SYMBOLdSMALL AeALPHAeBeBETAeCeCHIeDeDELTAeEeEPSILONeETAeFeFINAL SIGMAeGeGAMMAeH",
   "eIeIOTAeJeKeKAPPAeLeLAMDAeMeMUeNeNUeOeOMEGAeOMICRONePePHIePIePSIeQeReRHOeSeSIGMAeTeTAUeTHETAeU",
   "eUPSILONeVeWeXeXIeYeZeZETAdTHETA SYMBOLcCAPITAL AdBdCdDdEdFdGdHdIdJdKdLdMdNdOdPdQdRdSdTdUdVdW",
   "dXdYdZcDIGIT EIGHTdFIVEdFOURdNINEdONEdSEVENdSIXdTHREEdTWOdZEROcITALIC CAPITAL AeBeCeDeEeFeGeH",
   "eIeJeKeLeMeNeOePeQeReSeTeUeVeWeXeYeZdSMALL AeBeCeDeEeFeGeHeIeJeKeLeMeNeOePeQeReSeTeUeVeWeXeYeZ",
   "cSMALL AdBdCdDdEdFdGdHdIdJdKdLdMdNdOdPdQdRdSdTdUdVdWdXdYdZbSCRIPT CAPITAL AdCdDdGdJdKdNdOdPdQ",
   "dSdTdUdVdWdXdYdZcSMALL AdBdCdDdFdHdIdJdKdLdMdNdPdQdRdSdTdUdVdWdXdYdZaMAXIMIZE",
   "aMAYAN NUMERAL EIGHTcEIGHTEENcELEVENcFIFTEENcFIVEcFOURcFOURTEENcNINEcNINETEENcONEcSEVEN",
   "cSEVENTEENcSIXcSIXTEENcTENcTHIRTEENcTHREEcTWELVEcTWOcZEROaMEASURED ANGLEcOPENING LEFT",
   "cWITH OPEN ARM ENDING IN ARROW POINTING DOWN AND LEFTlRIGHTjLEFT AND DOWNlUPjRIGHT AND DOWNlUP",
   "jUP AND LEFTlRIGHTbBYbRIGHT ANGLE WITH DOTaMEAT ON BONEaMECHANICAL ARMbLEG",
   "aMEDEFAIDRIN CAPITAL LETTER AdAIdATIUdBdCdDdEdFdGdHdHPdIdJdKdKPdLdMdNdNGdNYdOdOEdPdQdRdSdTdUdV",
   "dWdXdYdYUdZbCOMMAbDIGIT EIGHTcFIVEcFOURcNINEcONEdALTERNATE FORMcSEVENcSIXcTHREEdALTERNATE FORM",
   "cTWOdALTERNATE FORMcZERObEXCLAMATION OHbFULL STOPbNUMBER EIGHTEENcELEVENcFIFTEENcFOURTEEN",
   "cNINETEENcSEVENTEENcSIXTEENcTENcTHIRTEENcTWELVEbSMALL LETTER AdAIdATIUdBdCdDdEdFdGdHdHPdIdJdK",
   "dKPdLdMdNdNGdNYdOdOEdPdQdRdSdTdUdVdWdXdYdYUdZbSYMBOL AIVAaMEDIEVAL COMMAbEXCLAMATION MARK",
   "bQUESTION MARKaMEDIUM BLACK CIRCLEbBOLD WHITE CIRCLEbEIGHT POINTED BLACK STARcSPOKED ASTERISK",
   "bFIVE SPOKED ASTERISKbFLATTENED LEFT PARENTHESIS ORNAMENTcRIGHT PARENTHESIS ORNAMENT",
   "bFOUR POINTED BLACK STARdPINWHEEL STARbGREEK CROSSbLEFT CURLY BRACKET ORNAMENT",
   "cPARENTHESIS ORNAMENTbLEFT-POINTING ANGLE BRACKET ORNAMENTbMATHEMATICAL SPACE",
   "bRIGHT CURLY BRACKET ORNAMENTcPARENTHESIS ORNAMENTbRIGHT-POINTING ANGLE BRACKET ORNAMENT",
   "bSALTIREbSHADEbSIX POINTED BLACK STARcSPOKED ASTERISKbSMALL WHITE CIRCLE",
   "bTHREE POINTED BLACK STARdPINWHEEL STARbVERTICAL BARbWHITE CIRCLEcSQUARE",
   "aMEETEI MAYEK AHANG KHUDAMcANJIcAPUN IYEKcCHEIKHANcCHEIKHEIcDIGIT EIGHTdFIVEdFOURdNINEdONE",
   "dSEVENdSIXdTHREEdTWOdZEROcLETTER ATIYAdBAdBHAMdCHAdCHILdDDAdDDHAdDHOUdDILdEdGHOUdGOKdHUKdI",
   "eLONSUMdJHAMdJILdKHOUdKOKeLONSUMdLAIeLONSUMdMITeLONSUMdNAeLONSUMdNGOUeLONSUMdNNAdNYAdOdPA",
   "eLONSUMdPHAMdRAIdSAMdSHAdSSAdTHOUdTILeLONSUMdTTAdTTHAdUNdWAIdYANGcLUM IYEK",
   "cSYLLABLE REPETITION MARKcVIRAMAcVOWEL SIGN AAIeAAUeANAPeAUeCHEINAPeIIeINAPeNUNGeONAPeSOUNAP",
   "eUNAPeUUeVISARGAeYENAPcWORD REPETITION MARKaMELONaMELTING FACEaMEMO",
   "aMENDE KIKAKUI COMBINING NUMBER HUNDRED THOUSANDSeHUNDREDSeMILLIONSeTEENSeTEN THOUSANDSeTENS",
   "eTHOUSANDScDIGIT EIGHTdFIVEdFOURdNINEdONEdSEVENdSIXdTHREEdTWOcSYLLABLE M001 KIdM002 KAdM003 KU",
   "dM004 WIdM005 WAdM006 WUdM007 MINdM008 MANdM009 MUNdM010 BIdM011 BAdM012 BUdM013 IdM014 A",
   "dM015 UdM016 DIdM017 DAdM018 DUdM019 SIdM020 SAdM021 SUdM022 TIdM023 TAdM024 TUdM025 LI",
   "dM026 LAdM027 LUdM028 JIdM029 JAdM030 JUdM031 YIdM032 YAdM033 YUdM034 FIdM035 FAdM036 FU",
   "dM037 NINdM038 NANdM039 NUNdM040 HEEdM041 HAdM042 HOOdM043 NGGAdM044 KPEEdM045 WOdM046 HUAN",
   "dM047 MBEEdM048 KOdM049 WVAdM050 PUdM051 PEdM052 HENdM053 HINdM054 LOOdM055 TEdM056 GBA",
   "dM057 NGONdM058 NYANdM059 MENdM060 NYONdM061 WVIdM062 MBAdM063 JOdM064 NDOdM065 KEEdM066 PO",
   "dM067 NDOOdM068 PIdM069 TOdM070 GBOdM071 GBOOdM072 MBEdM073 LEdM074 KPUdM075 FEdM076 KOO",
   "dM077 VOdM078 FEEdM079 SOdM080 YEdM081 PEEdM082 NGGUdM083 HEEIdM084 LEEdM085 VEdM086 LONG NGGE",
   "dM087 HUNdM088 FOdM089 DEEdM090 NGGIdM091 TEEdM092 KPAdM093 GBEEdM094 MONdM095 KEdM096 HE",
   "dM097 BEdM098 NYENdM099 PAdM100 EdM101 FANdM102 POOdM103 BOOdM104 TOOdM105 LONG MBOO",
   "dM106 LONG NGGOOdM107 GBEdM108 KPEdM109 YEEdM110 LONG LEdM111 GAdM112 KPOOdM113 JEdM114 WOO",
   "dM115 NGGEEdM116 SEdM117 NENdM118 WEdM119 NDEdM120 NGGOdM121 YOdM122 MBUdM123 NDIdM124 GBI",
   "dM125 NDUdM126 WEEdM127 NGGUAdM128 HOOUdM129 NDAdM130 HANdM131 INdM132 KPIdM133 FOOdM134 NJOO",
   "dM135 INdM136 SOOdM137 EIdM138 BOdM139 WVEdM140 HOdM141 YOOdM142 LONG MBOdM143 WEIdM144 VOO",
   "dM145 MBIdM146 NGGEdM147 OdM148 GBUdM149 NJEEdM150 BEEdM151 VUdM152 NJAdM153 LOdM154 MUAN",
   "dM155 GIdM156 NGGOOdM157 JEEdM158 KPOdM159 NGGAAdM160 JOOdM161 LONG MBEdM162 SEEdM163 EE",
   "dM164 NYINdM165 OOdM166 GUEIdM167 GUANdM168 GUdM169 NONdM170 NYUNdM171 RAdM172 MBOOdM173 VEE",
   "dM174 MBOdM175 LONG JOdM176 HIdM177 NGUANdM178 ENdM179 KUAdM180 DOOdM181 DOdM182 VI",
   "dM183 LONG NGGOdM184 NGENdM185 VAdM186 HUdM187 MBUUdM188 MBEEdM189 MUENdM190 GEEdM191 NDEE",
   "dM192 NJUdM193 HONdM194 WUIdM195 ANdM196 SIAdM197 FUAaMENORAH WITH NINE BRANCHESaMENS SYMBOL",
   "aMERCURYaMEROITIC CURSIVE FRACTION EIGHT TWELFTHSdELEVEN TWELFTHSdFIVE TWELFTHSdFOUR TWELFTHS",
   "dNINE TWELFTHSdONE HALFeTWELFTHdSEVEN TWELFTHSdSIX TWELFTHSdTEN TWELFTHSdTHREE TWELFTHS",
   "dTWO TWELFTHScLETTER AdARCHAIC SAdBAdDAdEdHHAdIdKAdKHAdLAdMAdNAdNEdOdPAdQAdRAdSAdSEdTAdTEdTO",
   "dWAdYAcLOGOGRAM IMNdRMTcNUMBER EIGHTeHUNDREDfTHOUSANDeTHOUSANDdEIGHTY THOUSANDdFIFTYeTHOUSAND",
   "dFIVEeHUNDREDfTHOUSANDeTHOUSANDdFORTYeTHOUSANDdFOUReHUNDREDfTHOUSANDeTHOUSANDdNINEeHUNDRED",
   "fTHOUSANDeTHOUSANDdNINETY THOUSANDdONEeHUNDREDfTHOUSANDeTHOUSANDdSEVENeHUNDREDfTHOUSAND",
   "eTHOUSANDdSEVENTYeTHOUSANDdSIXeHUNDREDfTHOUSANDeTHOUSANDdSIXTYeTHOUSANDdTENeTHOUSANDdTHIRTY",
   "eTHOUSANDdTHREEeHUNDREDfTHOUSANDeTHOUSANDdTWENTYeTHOUSANDdTWOeHUNDREDfTHOUSANDeTHOUSAND",
   "bHIEROGLYPHIC LETTER AdBAdBA-2dDAdEdHHAdIdKAdKHAdLAdMAdNAdNA-2dNEdNE-2dOdPAdQAdRAdRA-2dSAdSA-2",
   "dSEdTAdTA-2dTEdTE-2dTOdWAdYAcSYMBOL VIDJdVIDJ-2aMERPERSONaMESSAGE WAITINGaMETRICAL BREVE",
   "bLONG OVER SHORTdTWO SHORTSbPENTASEMEbSHORT OVER LONGbTETRASEMEbTRISEMEbTWO SHORTS JOINED",
   "dOVER LONGaMETROaMIAO LETTER AHcARCHAIC MAdNAdNGAdZZAcBAcBRIcDAcDDAcDLHAcDLHYAcDZAcDZHAcDZYI",
   "cDZZAcFAcGAcGHAcGHHAcHAcHHAcKAcLAcLHAcLHYAcLYAcMAcMHAcNAcNASALIZATIONcNGAcNGHAcNHAcNNAcNNHA",
   "cNYAcNYHAcPAcPLAcQAcQGAcREFORMED TONE-1dTONE-2dTONE-4dTONE-5dTONE-6dTONE-8dTSHAcRTEcSAcSHAcSSA",
   "cSYIcTAcTEcTLHAcTLHYAcTONE-2cTONE-3cTONE-4cTONE-5cTONE-6cTONE-7cTONE-8cTSAcTSEcTSHAcTSSAcTTA",
   "cVAcVFAcWAcXAcYI DZHAdKAdNNAdPAdTAdTSAdTSHAdTTAcZAcZHAcZSAcZSHAcZZAcZZSAcZZSYAcZZYA",
   "bSIGN ASPIRATIONcCONSONANT MODIFIER BARcREFORMED ASPIRATIONdVOICINGbTONE ABOVEcBELOWcRIGHT",
   "cTOP RIGHTbVOWEL SIGN AdAAdAEdAEEdAHHdAIdANdANGdAUdEdEAdEIdENdENGdERdERRdIdIAdIANdIANGdIEdIG",
   "dIIdINGdIOdIONGdIUdNdNGdOdOERdOEYdOGdOOdOUdROUNDED EReERRdUdUAdUANdUANGdUEIdUIdUNGdUOGdUUdVWdW",
   "dWOdYdYIdYUIaMICR DASH SYMBOLbON US SYMBOLaMICRO SIGNaMICROBEaMICROPHONEaMICROSCOPEaMIDDLE DOT",
   "bTHIRD WHITE RIGHT POINTING INDEXaMIDLINE HORIZONTAL ELLIPSISaMILITARY HELMETbMEDALaMILKY WAY",
   "aMILL SIGNaMINIBUSaMINIDISCaMINIMIZEaMINUS SIGNcIN TRIANGLEcWITH COMMA ABOVEdDOT BELOW",
   "dFALLING DOTSdRISING DOTSbTILDEaMINUS-OR-PLUS SIGNaMINYaMIRRORbBALLaMMSPaMOBILE PHONEcOFF",
   "cWITH RIGHTWARDS ARROW AT LEFTaMODELSaMODERN PENTATHLONaMODI ABBREVIATION SIGNbDANDA",
   "bDIGIT EIGHTcFIVEcFOURcNINEcONEcSEVENcSIXcTHREEcTWOcZERObDOUBLE DANDAbLETTER AcAAcAIcAUcBAcBHA",
   "cCAcCHAcDAcDDAcDDHAcDHAcEcGAcGHAcHAcIcIIcJAcJHAcKAcKHAcLAcLLAcMAcNAcNGAcNNAcNYAcOcPAcPHAcRAcSA",
   "cSHAcSSAcTAcTHAcTTAcTTHAcUcUUcVAcVOCALIC LdLLdRdRRcYAbSIGN ANUSVARAcARDHACANDRAcHUVAcVIRAMA",
   "cVISARGAbVOWEL SIGN AAdAIdAUdEdIdIIdOdUdUUdVOCALIC LeLLeReRR",
   "aMODIFIER BREVE WITH INVERTED BREVEbLETTER ACUTE ACCENTcALVEOLAR CLICKcAPOSTROPHE",
   "cBEGIN HIGH TONEdLOW TONEcBILABIAL CLICKcCAPITAL AdAEdBdBARRED BdCdDdEdFdGdHeWITH STROKEdIdJdK",
   "dLdMdNdOdOUdPdQdRdREVERSED EeNdTdUdVdWcCENTRED LEFT HALF RINGdRIGHT HALF RING",
   "cCHINESE TONE YANG PINGfQUfRUfSHANGeYIN PINGfQUfRUfSHANGcCIRCUMFLEX ACCENTcCOLONcCROSS ACCENT",
   "cCYRILLIC ENdHARD SIGNdSOFT SIGNcDENTAL CLICKcDOT HORIZONTAL BARdSLASHdVERTICAL BAR",
   "cDOUBLE APOSTROPHEdPRIMEcDOWN ARROWHEADdTACKcEND HIGH TONEdLOW TONE",
   "cEXTRA-HIGH DOTTED LEFT-STEM TONE BAReTONE BARdLEFT-STEM TONE BARdTONE BAR",
   "cEXTRA-LOW DOTTED LEFT-STEM TONE BAReTONE BARdLEFT-STEM TONE BARdTONE BARcGEORGIAN NAR",
   "cGLOTTAL STOPeWITH STROKEcGRAVE ACCENTcHALF TRIANGULAR COLONcHIGH DOTTED LEFT-STEM TONE BAR",
   "eTONE BARdLEFT-STEM TONE BARdTONE BARcLATERAL CLICKcLEFT ARROWHEADdHALF RINGdTACK",
   "cLOW ACUTE ACCENTdCIRCUMFLEX ACCENTdDOTTED LEFT-STEM TONE BAReTONE BARdDOWN ARROWHEAD",
   "dGRAVE ACCENTdINVERTED EXCLAMATION MARKdLEFT ARROWeARROWHEADdLEFT-STEM TONE BARdMACRON",
   "dRIGHT ARROWHEADdRINGdTILDEdTONE BARdUP ARROWHEADdVERTICAL LINEcLOWER RIGHT CORNER ANGLE",
   "cMACRONcMID DOTTED LEFT-STEM TONE BAReTONE BARdLEFT-STEM TONE BARdTONE BAR",
   "cMIDDLE DOUBLE ACUTE ACCENTeGRAVE ACCENTdGRAVE ACCENTcMINUS SIGNcOPEN SHELFcPLUS SIGNcPRIME",
   "cRAISED COLONdDOWN ARROWdEXCLAMATION MARKdINVERTED EXCLAMATION MARKdUP ARROW",
   "cRETROFLEX CLICK WITH RETROFLEX HOOKcREVERSED COMMAdGLOTTAL STOPfWITH STROKEcRHOTIC HOOK",
   "cRIGHT ARROWHEADdHALF RINGdTACKcSHELFcSHORT EQUALS SIGNcSMALL AdAEdAINdALPHAdBeWITH HOOK",
   "dBARRED OdBETAdBOTTOM HALF OdCeWITH CURLdCAPITAL AAeBeGfWITH HOOKeHeIfWITH STROKEeINVERTED ReL",
   "fWITH BELTeNeOEeReUeYdCHIdCLOSED OMEGAeREVERSED OPEN EdDeWITH HOOKgAND TAILfTAILdDELTA",
   "dDEZH DIGRAPHdDOTLESS J WITH STROKEhAND HOOKdDZ DIGRAPHfWITH CURLgRETROFLEX HOOKdEdENGdESHdETH",
   "dEZHdFdFENG DIGRAPHdGeWITH HOOKdGAMMAdGREEK GAMMAePHIdHeWITH HOOKfSTROKEdHENGeWITH HOOK",
   "dI WITH STROKEdIOTAdJeWITH CROSSED-TAILdKdLeWITH BELTfINVERTED LAZY SfMIDDLE TILDE",
   "fPALATAL HOOKfRETROFLEX HOOKhAND BELTdLEZHeWITH RETROFLEX HOOKdLIGATURE OEdLS DIGRAPH",
   "dLZ DIGRAPHdMeWITH HOOKdN WITH LEFT HOOKfRETROFLEX HOOKdOeWITH STROKEdOPEN EeOdPdPHIdQdR",
   "eWITH FISHHOOKfTAILdRAMS HORNdREVERSED EeGLOTTAL STOPeOPEN EdSeWITH CURLfHOOKdSCHWAdSCRIPT G",
   "dSIDEWAYS UdTeWITH PALATAL HOOKfRETROFLEX HOOKdTC DIGRAPH WITH CURLdTESH DIGRAPHdTHETA",
   "dTOP HALF OdTS DIGRAPHfWITH RETROFLEX HOOKdTURNED AeAEeALPHAeHeIeMfWITH LONG LEGeOPEN EeR",
   "fWITH HOOKgLONG LEGiAND RETROFLEX HOOKeVeWeYfWITH BELTdUeBAReWITH LEFT HOOKdUPSILONdV",
   "eWITH HOOKfRIGHT HOOKdWdXdYdZeWITH CURLfRETROFLEX HOOKcSTRESS AND HIGH TONEeLOW TONE",
   "cSUPERSCRIPT HALF TRIANGULAR COLONdTRIANGULAR COLONcTRIANGULAR COLONcTURNED COMMAcUNASPIRATED",
   "cUP ARROWHEADdTACKcUScVERTICAL LINEcVOICINGcYANG DEPARTING TONE MARKcYIN DEPARTING TONE MARK",
   "aMODULO TWO SUMaMONEY BAGbWITH WINGSaMONEY-MOUTH FACEaMONGOLIAN BIRGAcWITH DOUBLE ORNAMENT",
   "dORNAMENTbCOLONbCOMMAbDIGIT EIGHTcFIVEcFOURcNINEcONEcSEVENcSIXcTHREEcTWOcZERO",
   "bDOUBLE BIRGA WITH ORNAMENTbELLIPSISbFOUR DOTSbFREE VARIATION SELECTOR FOUReONEeTHREEeTWO",
   "bFULL STOPbINVERTED BIRGAdWITH DOUBLE ORNAMENTbLETTER AcALI GALI AeAHeANUSVARA ONEeBALUDAeCA",
   "eDAeDAGALGAeDAMARUeDDAeHALF UfYAeIeINVERTED UBADAMAeKAeNGAeNNAePAePHAeSSAeTAeTHREE BALUDAeTTA",
   "eTTHAeUBADAMAeVISARGA ONEeZAeZHAcANGcBAcCHAdWITH TWO DOTScCHIcDAcEcEEcFAcGAcHAAcIcJAcKAcKHAcLA",
   "cLHAcMAcMANCHU ALI GALI BHAfCAfCYAfDDHAfDHAfGHAfJHAfLHAfNGAfSSAfTAfTTAfZAfZHAdFAdIdKAdRAdZHA",
   "cNAcOcOEcPAcQAcRAcSAcSHAcSIBE ANGdCHAdDAdEdFAdGAdGAAdHAdHAAdIdIYdJAdKAdPAdRAAdSHAdTAdTSAdUdUE",
   "dZAdZHAcTAcTODO ALI GALI TAfZHAdANGdBAdCHAdDAdDZAdEdGAdGAAdHAAdIdJAdJIAdKAdLONG VOWEL SIGNdMA",
   "dNIAdOdOEdPAdQAdTAdTSAdUdUEdWAdYAcTSAcUcUEcWAcYAcZAcZHIcZRAbMANCHU COMMAcFULL STOPbNIRUGU",
   "bROTATED BIRGAdWITH DOUBLE ORNAMENTeORNAMENTbSIBE SYLLABLE BOUNDARY MARKERbSWIRL BIRGA",
   "dWITH DOUBLE ORNAMENTeORNAMENTbTODO SOFT HYPHENbTRIPLE BIRGA WITH ORNAMENT",
   "bTURNED SWIRL BIRGA WITH DOUBLE ORNAMENTbVOWEL SEPARATORaMONKEYbFACEaMONOGRAM FOR EARTHcYANG",
   "cYINaMONORAILaMONOSTABLE SYMBOLaMOOD BUBBLEaMOON CAKEbVIEWING CEREMONYaMOSQUEaMOSQUITO",
   "aMOTHER CHRISTMASaMOTOR BOATbSCOOTERaMOTORIZED WHEELCHAIRaMOTORWAYaMOUNT FUJIaMOUNTAIN",
   "bBICYCLISTbCABLEWAYbRAILWAYaMOUSEbFACEbTRAPaMOUTHaMOVIE CAMERAaMOYAIaMRO DANDAbDIGIT EIGHT",
   "cFIVEcFOURcNINEcONEcSEVENcSIXcTHREEcTWOcZERObDOUBLE DANDAbLETTER AcBAcCHUcDAcDAIcEcEAcHAIcHAO",
   "cKEAAEcKHAIcKOcLAcLANcMAEMcMIMcNGIcNINcOcOLcOOcPAcPHIcRIcROcSHIcTAcTEKcTHEAcWAcYO",
   "aMUCH GREATER-THANbLESS-THANaMULTANI LETTER AcBAcBHAcCAcCHAcDAcDDAcDDDAcDDHAcDHAcEcGAcGHAcHAcI",
   "cJAcJJAcKAcKHAcLAcMAcNAcNNAcNYAcPAcPHAcRAcRHAcRRAcSAcTAcTHAcTTAcTTHAcUcVAcYAbSECTION MARK",
   "aMULTIMAPaMULTIPLE MUSICAL NOTESaMULTIPLICATION SIGNcIN DOUBLE CIRCLEdLEFT HALF CIRCLE",
   "dRIGHT HALF CIRCLEdTRIANGLEcWITH DOT ABOVEdUNDERBARbXaMULTISETbMULTIPLICATIONbUNIONaMUSHROOM",
   "aMUSIC FLAT SIGNbNATURAL SIGNbSHARP SIGNaMUSICAL KEYBOARDcWITH JACKSbNOTEbSCORE",
   "bSYMBOL ARPEGGIATO DOWNdUPcBEGIN BEAMdPHRASEdSLURdTIEcBRACEcBRACKETcBREATH MARKcBREVEcBREVIS",
   "dRESTcC CLEFcCAESURAcCIRCLE X NOTEHEADcCLIMACUScCLIVIScCLUSTER NOTEHEAD BLACKeWHITEcCODA",
   "cCOMBINING ACCENTdACCENT-STACCATOdAUGMENTATION DOTdBENDdDOITdDOUBLE TONGUEdDOWN BOWdFLAG-1",
   "dFLAG-2dFLAG-3dFLAG-4dFLAG-5dFLIPdHARMONICdLOUREdMARCATOdMARCATO-STACCATOdRIPdSMEAR",
   "dSNAP PIZZICATOdSPRECHGESANG STEMdSTACCATISSIMOdSTACCATOdSTEMdTENUTOdTREMOLO-1dTREMOLO-2",
   "dTREMOLO-3dTRIPLE TONGUEdUP BOWcCOMMON TIMEcCRESCENDOcCROIXcCUT TIMEcDA CAPOcDAL SEGNOcDAMP",
   "dALLcDASHED BARLINEcDECRESCENDOcDEGREE SLASHcDOUBLE BARLINEdFLATdSHARPcDRUM CLEF-1dCLEF-2",
   "cEIGHTH NOTEdRESTcEND BEAMdOF STIMMEdPHRASEdSLURdTIEcF CLEFeOTTAVA ALTAfBASSAcFERMATAdBELOW",
   "cFINAL BARLINEcFINGERED TREMOLO-1dTREMOLO-2dTREMOLO-3cFIVE-LINE STAFFcFLAT DOWNdUPcFORTE",
   "cFOUR-LINE STAFFcFOUR-STRING FRETBOARDcFUSA BLACKdWHITEcG CLEFeOTTAVA ALTAfBASSA",
   "cGLISSANDO DOWNdUPcGRACE NOTE NO SLASHeSLASHcGREGORIAN C CLEFdF CLEFcHALF NOTEdPEDAL MARKdREST",
   "cHAUPTSTIMMEcINVERTED TURNcKIEVAN C CLEFdEIGHTH NOTE STEM DOWNgUPdEND OF PIECEdFINAL NOTE",
   "dFLAT SIGNdHALF NOTEdQUARTER NOTE STEM DOWNgUPdRECITATIVE MARKdWHOLE NOTEcKORON",
   "cLEFT REPEAT SIGNcLONGAdIMPERFECTA RESTdPERFECTA RESTcMAXIMAcMEZZOcMINIMAdBLACKdREST",
   "cMOON NOTEHEAD BLACKeWHITEcMULTI RESTcMULTIPLE MEASURE RESTcNATURAL DOWNdUPcNEBENSTIMME",
   "cNOTEHEAD BLACKcNULL NOTEHEADcONE HUNDRED TWENTY-EIGHTH NOTEfRESTcONE-LINE STAFF",
   "cORNAMENT STROKE-1dSTROKE-10dSTROKE-11dSTROKE-2dSTROKE-3dSTROKE-4dSTROKE-5dSTROKE-6dSTROKE-7",
   "dSTROKE-8dSTROKE-9cOTTAVA ALTAdBASSAcPARENTHESIS NOTEHEADcPEDAL MARKdUP MARKcPES SUBPUNCTIS",
   "cPIANOcPLUS NOTEHEADcPODATUScPORRECTUSdFLEXUScQUARTER NOTEdRESTdTONE FLATeSHARP",
   "cQUINDICESIMA ALTAdBASSAcREPEAT DOTScREPEATED FIGURE-1dFIGURE-2dFIGURE-3cREVERSE FINAL BARLINE",
   "cRIGHT REPEAT SIGNcRINFORZANDOcSCANDICUSdFLEXUScSEGNOcSEMIBREVIS BLACKdRESTdWHITE",
   "cSEMIMINIMA BLACKdRESTdWHITEcSHARP DOWNdUPcSHORT BARLINEcSINGLE BARLINEcSIX-LINE STAFF",
   "cSIX-STRING FRETBOARDcSIXTEENTH NOTEdRESTcSIXTY-FOURTH NOTEdRESTcSORIcSQUARE BdNOTEHEAD BLACK",
   "eWHITEcSUBITOcTEMPUS IMPERFECTUM CUM PROLATIONE IMPERFECTAhDIMINUTION-1hDIMINUTION-2",
   "hDIMINUTION-3gPERFECTAdPERFECTUM CUM PROLATIONE IMPERFECTAgPERFECTAhDIMINUTION-1",
   "cTHIRTY-SECOND NOTEdRESTcTHREE-LINE STAFFcTORCULUSdRESUPINUScTRcTRIANGLE NOTEHEAD DOWN BLACK",
   "fWHITEeLEFT BLACKfWHITEeRIGHT BLACKfWHITEeUP BLACKfRIGHT BLACKgWHITEfWHITE",
   "cTRIANGLE-ROUND NOTEHEAD DOWN BLACKfWHITEcTURNdSLASHdUPcTWO-LINE STAFFcVIRGAcVOID NOTEHEAD",
   "cWHOLE NOTEdRESTcWITH FINGERNAILScX NOTEHEADcZaMVSaMWaMYANMAR CONSONANT SIGN MEDIAL HAeRAeWA",
   "eYAdMON MEDIAL LAfMAfNAdSHAN MEDIAL WAbDIGIT EIGHTcFIVEcFOURcNINEcONEcSEVENcSIXcTHREEcTWOcZERO",
   "bLETTER AcAITON RAcAUcBAcBHAcCAcCHAcDAcDDAcDDHAcDHAcEcEASTERN PWO KAREN GHWAfNNAfYWAcGAcGHA",
   "cGREAT SAcHAcIcIIcJAcJHAcKAcKHAcKHAMTI CAdCHAdDDAdDDHAdDHAdFAdGAdHAdHHAdJAdJHAdLLAdNAdNYAdRA",
   "dSAdTTAdTTHAdXAdZAcLAcLLAcMAcMON BBAdBBEdEdJHAdNGAcNAcNGAcNNAcNNYAcNYAcOcPAcPHAcRA",
   "cRUMAI PALAUNG FAcSAcSGAW KAREN SHAcSHAcSHAN AdBAdBHAdCAdCHAdDAdFAdGAdGHAdHAdJHAdKAdKHAdNAdNNA",
   "dNYAdPHAdTHAdZAcSHWE PALAUNG CHAeSHAcSSAcTAcTAI LAING BAeBHAeDAeDDAeDDHAeDHAeFAeGAeGHAeJAeJHA",
   "eLLAeNNAeNYAcTHAcTTAcTTHAcUcUUcVOCALIC LdLLdRdRRcWAcWESTERN PWO KAREN PWAfTHAcYA",
   "bLOGOGRAM KHAMTI HMdOAYdQNbMODIFIER LETTER KHAMTI REDUPLICATIONdSHAN REDUPLICATION",
   "bSHAN DIGIT EIGHTdFIVEdFOURdNINEdONEdSEVENdSIXdTHREEdTWOdZERObSIGN ANUSVARAcASATcDOT BELOW",
   "cKHAMTI TONE-1dTONE-3cLITTLE SECTIONcPAO KAREN TONEcRUMAI PALAUNG TONE-5cSECTION",
   "cSHAN COUNCIL EMPHATIC TONEeTONE-2eTONE-3dSAWdTONE-2dTONE-3dTONE-5dTONE-6cTAI LAING TONE-2",
   "eTONE-5cVIRAMAcVISARGAcWESTERN PWO KAREN TONE-1fTONE-2fTONE-3fTONE-4fTONE-5",
   "bSYMBOL AFOREMENTIONEDcAITON EXCLAMATIONdONEdTWOcCOMPLETEDcGENITIVEcLOCATIVEcSHAN EXCLAMATION",
   "dONEbTAI LAING DIGIT EIGHTeFIVEeFOUReNINEeONEeSEVENeSIXeTHREEeTWOeZERO",
   "bTONE MARK SGAW KAREN HATHIfKE PHObVOWEL SIGN AAdAIdAITON AeAIdEeABOVEdGEBA KAREN IdIdII",
   "dKAYAH EEeOEeUdMON IIeOdSGAW KAREN EUdSHAN AAeEfABOVEeFINAL YdTALL AAdUdUUdVOCALIC LeLLeReRR",
   "dWESTERN PWO KAREN EUgUEaN-ARY CIRCLED DOT OPERATORcPLUS OPERATORcTIMES OPERATORbCOPRODUCT",
   "bINTERSECTIONbLOGICAL ANDcORbPRODUCTbSQUARE INTERSECTION OPERATORcUNION OPERATORbSUMMATION",
   "bTIMES OPERATORbUNIONcOPERATOR WITH DOTePLUSbWHITE VERTICAL BAR",
   "aNABATAEAN CRUCIFORM NUMBER FOURbLETTER ALEPHcAYINcBETHcDALETHcFINAL ALEPHdBETHdHEdKAPHdLAMEDH",
   "dMEMdNUNdSHINdYODHcGIMELcHEcHETHcKAPHcLAMEDHcMEMcNUNcPEcQOPHcRESHcSADHEcSAMEKHcSHINcTAWcTETH",
   "cWAWcYODHcZAYINbNUMBER FIVEcFOURcONEdHUNDREDcTENcTHREEcTWENTYcTWOaNABLAaNAIL POLISHaNAIRA SIGN",
   "aNAKaNAME BADGEaNANDaNANDINAGARI HEADSTROKEbLETTER AcAAcAIcAUcBAcBHAcCAcCHAcDAcDDAcDDHAcDHAcE",
   "cGAcGHAcHAcIcIIcJAcJHAcKAcKHAcLAcLLAcMAcNAcNGAcNNAcNYAcOcPAcPHAcRAcRRAcSAcSHAcSSAcTAcTHAcTTA",
   "cTTHAcUcUUcVAcVOCALIC RdRRcYAbSIGN ANUSVARAcAVAGRAHAcSIDDHAMcVIRAMAcVISARGAbVOWEL SIGN AAdAI",
   "dAUdEdIdIIdOdPRISHTHAMATRA EdUdUUdVOCALIC ReRRaNARROW NO-BREAK SPACEaNATIONAL DIGIT SHAPES",
   "bPARKaNAUSEATED FACEaNAZAR AMULETaNBHaNBSPaNECKTIE",
   "aNEGATED DOUBLE VERTICAL BAR DOUBLE RIGHT TURNSTILEaNEGATIVE ACKNOWLEDGEbCIRCLED DIGIT ZERO",
   "cLATIN CAPITAL LETTER AfBfCfDfEfFfGfHfIfJfKfLfMfNfOfPfQfRfSfTfUfVfWfXfYfZcNUMBER EIGHTEEN",
   "dELEVENdFIFTEENdFOURTEENdNINETEENdSEVENTEENdSIXTEENdTHIRTEENdTWELVEdTWENTYcSQUAREcTRIANGLE",
   "bDIAGONAL CROSScDIAMONDcMIDDLE RIGHT TO LOWER CENTREbSQUARED ABcCROSS MARKcIC",
   "cLATIN CAPITAL LETTER AfBfCfDfEfFfGfHfIfJfKfLfMfNfOfPfQfRfSfTfUfVfWfXfYfZcPAcQUESTION MARKcSA",
   "cWCaNEITHER A SUBSET OF NOR EQUAL TOcSUPERSET OF NOR EQUAL TO",
   "bAPPROXIMATELY NOR ACTUALLY EQUAL TObGREATER-THAN NOR EQUAL TOdEQUIVALENT TOdLESS-THAN",
   "bLESS-THAN NOR EQUAL TOdEQUIVALENT TOdGREATER-THANaNELaNEPTUNEbFORM TWOaNERD FACEaNESSUS",
   "aNEST WITH EGGSaNESTING DOLLSaNEUTERaNEUTRAL CHESS BISHOPdROTATED NINETY DEGREES",
   "eTWO HUNDRED SEVENTY DEGREEScEQUIHOPPERdROTATED NINETY DEGREEScKINGdROTATED NINETY DEGREES",
   "eTWO HUNDRED SEVENTY DEGREEScKNIGHTdROTATED FORTY-FIVE DEGREESeNINETY DEGREES",
   "eONE HUNDRED THIRTY-FIVE DEGREESeTHREE HUNDRED FIFTEEN DEGREESeTWO HUNDRED SEVENTY DEGREES",
   "gTWENTY-FIVE DEGREEScPAWNdROTATED NINETY DEGREESeTWO HUNDRED SEVENTY DEGREEScQUEEN",
   "dROTATED NINETY DEGREESeTWO HUNDRED SEVENTY DEGREEScROOKdROTATED NINETY DEGREES",
   "eTWO HUNDRED SEVENTY DEGREEScTURNED BISHOPdKINGdKNIGHTdPAWNdQUEENdROOKbFACEaNEW LINE",
   "bMOON SYMBOLcWITH FACEbSHEQEL SIGNbTAI LUE DIGIT EIGHTeFIVEeFOUReNINEeONEeSEVENeSIXeTHREEeTWO",
   "eZEROdLETTER FINAL BfDfKfMfNfNGfVeHIGH BAfDAfFAfHAfKAfKVAfLAfMAfNAfNGAfPAfPHAfQAfSAfSUAfTAfTHA",
   "fTSAfVAfXAfXVAfYAeLOW BAfDAfFAfHAfKAfKVAfLAfMAfNAfNGAfPAfPHAfQAfSAfSUAfTAfTHAfTSAfVAfXAfXVAfYA",
   "dSIGN LAEeLAEVdTHAM DIGIT ONEdTONE MARK-1eMARK-2dVOWEL SIGN AAfAAYfAEfAYfEfIIfIYfOfOAfOAYfOYfU",
   "fUEfUEYfUUfUYfVOWEL SHORTENERaNEWA ABBREVIATION SIGNbCOMMAbDANDAbDIGIT EIGHTcFIVEcFOURcNINE",
   "cONEcSEVENcSIXcTHREEcTWOcZERObDOUBLE COMMAcDANDAbGAP FILLERbINSERTION SIGNbLETTER AcAAcAIcAU",
   "cBAcBHAcCAcCHAcDAcDDAcDDHAcDHAcEcGAcGHAcHAcIcIIcJAcJHAcKAcKHAcLAcLHAcMAcMHAcNAcNGAcNGHAcNHA",
   "cNNAcNYAcNYHAcOcPAcPHAcRAcRHAcSAcSHAcSSAcTAcTHAcTTAcTTHAcUcUUcVEDIC ANUSVARAcVOCALIC LdLLdRdRR",
   "cWAcYAbOMbPLACEHOLDER MARKbSANDHI MARKbSIDDHIbSIGN ANUSVARAcAVAGRAHAcCANDRABINDU",
   "cFINAL ANUSVARAcJIHVAMULIYAcNUKTAcUPADHMANIYAcVIRAMAcVISARGAbVOWEL SIGN AAdAIdAUdEdIdIIdOdUdUU",
   "dVOCALIC LeLLeReRRaNEWLINE LEFTbRIGHTaNEWSPAPERaNEXT LINEbPAGEaNIGHT WITH STARSaNINJA",
   "aNKO COMBINING DOUBLE DOT ABOVEcLONG DESCENDING TONEdHIGH TONEdLOW TONEdRISING TONE",
   "cNASALIZATION MARKcSHORT HIGH TONEdLOW TONEdRISING TONEbCOMMAbDANTAYALANbDIGIT EIGHTcFIVEcFOUR",
   "cNINEcONEcSEVENcSIXcTHREEcTWOcZERObDOROME SIGNbEXCLAMATION MARKbHIGH TONE APOSTROPHE",
   "bLAJANYALANbLETTER AcBAcCHAcDAcDAGBASINNAcEcEEcFAcGBAcHAcIcJAcJONA CHAdJAdRAcKAcLAcMAcNcNA",
   "dWOLOSOcNYAdWOLOSOcOcOOcPAcRAcRRAcSAcTAcUcWAcYAbLOW TONE APOSTROPHEbSYMBOL GBAKURUNEN",
   "cOO DENNENbTAMAN SIGNaNLaNNBSPaNO BICYCLESbBREAK HEREbENTRYcSIGNbMOBILE PHONES",
   "bONE UNDER EIGHTEEN SYMBOLbPEDESTRIANSbPIRACYbSMOKING SYMBOLaNO-BREAK SPACE",
   "aNOMINAL DIGIT SHAPESaNOMISMA SIGNaNON-BREAKING HYPHENaNON-POTABLE WATER SYMBOLaNONFORKINGaNOR",
   "aNORDIC MARK SIGNaNORMAL SUBGROUP OFdOR EQUAL TOaNORTH EAST AND SOUTH WEST ARROWcARROW",
   "dAND SOUTH EAST ARROWdCROSSING NORTH WEST ARROWeSOUTH EAST ARROWdWITH HOOKcBLACK ARROW",
   "cDOUBLE ARROWcPOINTING BUDdLEAFdVINE LEAFcSANS-SERIF ARROWcTRIANGLE-HEADED ARROWeTO BAR",
   "cWHITE ARROWbINDIC FRACTION ONE EIGHTHeHALFeQUARTEReSIXTEENTHdTHREE QUARTERSeSIXTEENTHS",
   "cPLACEHOLDER MARKcQUANTITY MARKcQUARTER MARKcRUPEE MARKbWEST AND SOUTH EAST ARROWcARROW",
   "dAND NORTH EAST ARROWdCROSSING NORTH EAST ARROWdTO CORNEReLONG BARdWITH HOOKcBLACK ARROW",
   "cDOUBLE ARROWcPOINTING BUDdLEAFdVINE LEAFcSANS-SERIF ARROWcTRIANGLE-HEADED ARROWeTO BAR",
   "cWHITE ARROWaNORTHEAST-POINTING AIRPLANEaNOSEaNOT A SUBSET OFcSUPERSET OFbALMOST EQUAL TO",
   "bAN ELEMENT OFbASYMPTOTICALLY EQUAL TObCHECK MARKbEQUAL TObEQUIVALENT TObGREATER-THAN",
   "bIDENTICAL TObLESS-THANbNORMAL SUBGROUP OFeOR EQUAL TObPARALLEL TObSIGN",
   "bSQUARE IMAGE OF OR EQUAL TOcORIGINAL OF OR EQUAL TObTILDEbTRUE",
   "aNOTCHED LEFT SEMICIRCLE WITH THREE DOTSbLOWER RIGHT-SHADOWED WHITE RIGHTWARDS ARROW",
   "bRIGHT SEMICIRCLE WITH THREE DOTSbUPPER RIGHT-SHADOWED WHITE RIGHTWARDS ARROWaNOTEbPADbPAGE",
   "aNOTEBOOKbWITH DECORATIVE COVERaNULaNULLaNUMBER EIGHTEEN FULL STOPbELEVEN FULL STOP",
   "bFIFTEEN FULL STOPbFOURTEEN FULL STOPbNINETEEN FULL STOPbSEVENTEEN FULL STOPbSIGN",
   "bSIXTEEN FULL STOPbTEN FULL STOPbTHIRTEEN FULL STOPbTWELVE FULL STOPbTWENTY FULL STOP",
   "aNUMERO SIGNaNUSHU ITERATION MARKaNUT AND BOLTaNYIAKENG PUACHUE HMONG CIRCLED CAdDIGIT EIGHT",
   "eFIVEeFOUReNINEeONEeSEVENeSIXeTHREEeTWOeZEROdLETTER AeAAeCAeDAeDLAeEeEEeFAeGAeHAeHAHeIeKAeLA",
   "eMAeMLAeNAeNCAeNKAeNPAeNPLAeNQAeNRAeNTAeNTSAeNTXAeNYAeOeOOePAePLAeQAeRAeRRAeSAeTAeTSAeTXAeUeVA",
   "eWeXAeXYAeYAeZAdLOGOGRAM NYAJdSIGN FOR ANIMALfINVERTEBRATEfLOCATIONfPERSONfTHINGeXW XW",
   "dSYLLABLE LENGTHENERdTONE-BdTONE-DdTONE-GdTONE-JdTONE-MdTONE-SdTONE-V",
   "aOBJECT REPLACEMENT CHARACTERaOBLIQUE ANGLE OPENING DOWNdUPbHYPHENaOBSERVER EYE SYMBOL",
   "aOCR AMOUNT OF CHECKbBELT BUCKLEbBOW TIEbBRANCH BANK IDENTIFICATIONbCHAIR",
   "bCUSTOMER ACCOUNT NUMBERbDASHbDOUBLE BACKSLASHbFORKbHOOKbINVERTED FORKaOCTAGONAL SIGNaOCTOPUS",
   "aODENaOFFICE BUILDINGaOGHAM FEATHER MARKbLETTER AILMcBEITHcCEIRTcCOLLcDAIRcEABHADHcEADHADH",
   "cEAMHANCHOLLcFEARNcGORTcIFINcIODHADHcLUIScMUINcNGEADALcNIONcONNcORcPEITHcRUIScSAILcSTRAIF",
   "cTINNEcUATHcUILLEANNcURbREVERSED FEATHER MARKbSPACE MARKaOGONEKaOHM SIGNaOIL DRUMaOK HAND SIGN",
   "aOL CHIKI AHADcDIGIT EIGHTdFIVEdFOURdNINEdONEdSEVENdSIXdTHREEdTWOdZEROcGAAHLAA TTUDDAAG",
   "cLETTER AAJdAAKdAAMdAAWdAGdALdANGdATdEDDdENdEPdERRdIHdINYdIRdISdLAdLAAdLEdLIdLOdLUdOBdOHdOTT",
   "dOVdUCdUDdUNNdUYcMU TTUDDAGcMU-GAAHLAA TTUDDAAGcPHAARKAAcPUNCTUATION DOUBLE MUCAADdMUCAAD",
   "cRELAAaOLD CHINESE HOOK MARKcITERATION MARKbHUNGARIAN CAPITAL LETTER AeAAeAKeAMBeANDeCLOSE EeE",
   "eEBeECeECHeECSeEDeEEeEFeEGeEGYeEHeEJeEKeELeELYeEMeEMPeENeENCeENTeENT-SHAPED SIGNeENYeEPeEReES",
   "eESZeETeETYeEVeEZeEZSeIeIIeNIKOLSBURG OEfUEeOeOEEeOOeRUDIMENTA OEfUEeSHORT EReUeUNKeUSeUU",
   "cNUMBER FIFTYdFIVEdONEeHUNDREDeTHOUSANDdTENcSMALL LETTER AeAAeAKeAMBeANDeCLOSE EeEeEBeECeECH",
   "eECSeEDeEEeEFeEGeEGYeEHeEJeEKeELeELYeEMeEMPeENeENCeENTeENT-SHAPED SIGNeENYeEPeEReESeESZeETeETY",
   "eEVeEZeEZSeIeIIeNIKOLSBURG OEfUEeOeOEEeOOeRUDIMENTA OEfUEeSHORT EReUeUNKeUSeUUbITALIC LETTER A",
   "dBEdCHEdDEdEdEFdEKSdELdEMdENdERdERSdESdESHdESSdHEdIdIIdKAdKEdKHEdKUdNORTHERN TSEdOdPEdPHEdSHE",
   "dSOUTHERN TSEdTEdTHEdUdUUdVEdYEdZEcNUMERAL FIFTYdFIVEdONEdTENbKEYbNORTH ARABIAN LETTER AIN",
   "eALEFeBEHeDADeDALeES-1eES-2eES-3eFEHeGEEMeGHAINeHAHeHEHeKAFeKHAHeLAMeMEEMeNOONeQAFeREHeSADeTAH",
   "eTEHeTHALeTHEHeWAWeYEHeZAHeZAINdNUMBER ONEeTENeTWENTYbPERMIC LETTER ANdBURdCHERYdDOIdDZHOI",
   "dDZITAdEdEFdGAIdHAdIdIAdIEdKOKEdLEIdMENOEdNENOEdOdOOdPEEIdREIdSHCHOOIdSHOOIdSIIdTAIdTSIUdUdVER",
   "dVOOIdYAdYATdYERdYERIdYERUdYRYdYUdZATAdZHOIbPERSIAN NUMBER HUNDREDdONEdTENdTWENTYdTWOcSIGN A",
   "dAURAMAZDAAdAURAMAZDAA-2dAURAMAZDAAHAdBAdBAGAdBUUMISHdCAdDAdDAHYAAUSHdDAHYAAUSH-2dDIdDUdFAdGA",
   "dGUdHAdIdJAdJIdKAdKUdLAdMAdMIdMUdNAdNUdPAdRAdRUdSAdSHAdSSAdTAdTHAdTUdUdVAdVIdXAdXSHAAYATHIYA",
   "dYAdZAcWORD DIVIDERbPERSONAL COMPUTERbSOGDIAN FRACTION ONE HALFcLETTER ALEPHdALTERNATE AYIN",
   "dAYINdBETHdFINAL ALEPHeBETHeHEeNUNfWITH VERTICAL TAILeSADHEfWITH VERTICAL TAILeTAW",
   "fWITH VERTICAL TAILdGIMELdHEdHETHdKAPHdLAMEDHdMEMdNUNdPEdRESH-AYIN-DALETHdSADHEdSAMEKHdSHIN",
   "dTAWdWAWdYODHdZAYINcLIGATURE AYIN-DALETHcNUMBER FIVEdFOURdONEeHUNDREDdTENdTHIRTYdTHREEdTWENTY",
   "dTWObSOUTH ARABIAN LETTER ALEFeAYNeBETHeDALETHeDHADHEeDHALETHeFEeGHAYNeGIMELeHEeHETHeKAPH",
   "eKHETHeLAMEDHeMEMeNUNeQOPHeRESHeSADHEeSAMEKHeSATeSHINeTAWeTETHeTHAWeTHETHeWAWeYODHeZAYN",
   "dNUMBER FIFTYeONEdNUMERIC INDICATORbTURKIC LETTER ORKHON AeABeADeAEBeAEDeAEGeAEKeAELeAENeAER",
   "eAESeAETeAEYeAGeALeANeAQeAReASeASHeATeAYeBASHeECeELTeEMeENCeENGeENTeENYeEPeESHeEZeIeICeIQeOeOE",
   "eOEKeOPeOQeOTdYENISEI AeABeADeAEeAEBeAEGeAEKeAENeAENGeAETeAEYeAGeALeANGeAQeAReASHeATeAYeEeEC",
   "eENCeENTeENYeESHeEZeIeIQeOEeOEKeOQbUYGHUR COMBINING DOT ABOVEeBELOWdTWO DOTS ABOVEfBELOW",
   "cLETTER ALEPHdBETHdFINAL HETHdGIMEL-HETHdKAPHdLAMEDHdLESHdMEMdNUNdPEdRESHdSADHEdSAMEKHdSHIN",
   "dTAWdWAWdYODHdZAYINcPUNCTUATION BARdFOUR DOTSdTWO BARSeDOTSaOLDER ADULTbMANbWOMANaOLIVE",
   "aOM SYMBOLaON WITH EXCLAMATION MARK WITH LEFT RIGHT ARROW ABOVEaONCOMING AUTOMOBILEbBUS",
   "bFIRE ENGINEbPOLICE CARbTAXIaONE BUTTON MOUSEbDOT LEADERcOVER TWO DOTS PUNCTUATION",
   "aONE-PIECE SWIMSUITaONIONaOPEN BOOKbBOXbCENTRE ASTERISKcBLACK STARcCROSS",
   "cTEARDROP-SPOKED ASTERISKbFILE FOLDERbFOLDERbHANDS SIGNbLOCKbMAILBOX WITH LOWERED FLAG",
   "dRAISED FLAGbSUBSETbSUPERSETaOPEN-CIRCUIT-OUTPUT H-TYPE SYMBOLbL-TYPE SYMBOL",
   "aOPEN-OUTLINED RIGHTWARDS ARROWaOPERATING SYSTEM COMMANDaOPHIUCHUSaOPPOSITIONaOPTICAL DISC",
   "cICONaOPTION KEYaOR WITH DOT INSIDEaORANGE BOOKbHEARTaORANGUTANaORIGINAL OF",
   "aORIYA AI LENGTH MARKbAU LENGTH MARKbDIGIT EIGHTcFIVEcFOURcNINEcONEcSEVENcSIXcTHREEcTWOcZERO",
   "bFRACTION ONE EIGHTHdHALFdQUARTERdSIXTEENTHcTHREE QUARTERSdSIXTEENTHSbISSHARbLETTER AcAAcAIcAU",
   "cBAcBHAcCAcCHAcDAcDDAcDDHAcDHAcEcGAcGHAcHAcIcIIcJAcJHAcKAcKHAcLAcLLAcMAcNAcNGAcNNAcNYAcOcPA",
   "cPHAcRAcRHAcRRAcSAcSHAcSSAcTAcTHAcTTAcTTHAcUcUUcVAcVOCALIC LdLLdRdRRcWAcYAcYYAbSIGN ANUSVARA",
   "cAVAGRAHAcCANDRABINDUcNUKTAcOVERLINEcVIRAMAcVISARGAbVOWEL SIGN AAdAIdAUdEdIdIIdOdUdUU",
   "dVOCALIC LeLLeReRRaORNATE LEFT PARENTHESISbRIGHT PARENTHESISaORTHODOX CROSS",
   "aOSAGE CAPITAL LETTER AdAHdAIdAINdBRAdCHAdDHAdEdEHCHAdEHKAdEHPAdEHTAdEHTSAdEINdGHAdHAdHYAdIdKA",
   "dKHAdKYAdLAdMAdNAdOdOINdPAdSAdSHAdTAdTSAdTSHAdUdWAdZAdZHAbSMALL LETTER AdAHdAIdAINdBRAdCHAdDHA",
   "dEdEHCHAdEHKAdEHPAdEHTAdEHTSAdEINdGHAdHAdHYAdIdKAdKHAdKYAdLAdMAdNAdOdOINdPAdSAdSHAdTAdTSAdTSHA",
   "dUdWAdZAdZHAaOSCaOSMANYA DIGIT EIGHTcFIVEcFOURcNINEcONEcSEVENcSIXcTHREEcTWOcZERObLETTER AcAA",
   "cALEFcBAcCAYNcDEELcDHAcEcEEcFAcGAcHAcIcJAcKAAFcKHAcLAANcMIINcNUUNcOcOOcQAAFcRAcSAcSHIINcTAcU",
   "cWAWcXAcYAaOTTERaOTTOMAN SIYAQ ALTERNATE NUMBER EIGHTeFIVEeFOURfHUNDREDeNINEeSEVENeSIXfHUNDRED",
   "eTENfTHOUSANDeTHREEeTWOfTHOUSANDcFRACTION ONE HALFeSIXTHcMARRATANcNUMBER EIGHTeHUNDRED",
   "eTHOUSANDdEIGHTYeTHOUSANDdFIFTYeTHOUSANDdFIVEeHUNDREDeTHOUSANDdFORTYeTHOUSANDdFOUReHUNDRED",
   "eTHOUSANDdNINEeHUNDREDeTHOUSANDdNINETYeTHOUSANDdONEeHUNDREDeTHOUSANDdSEVENeHUNDREDeTHOUSAND",
   "dSEVENTYeTHOUSANDdSIXeHUNDREDeTHOUSANDdSIXTYeTHOUSANDdTENeTHOUSANDdTHIRTYeTHOUSANDdTHREE",
   "eHUNDREDeTHOUSANDdTWENTYeTHOUSANDdTWOeHUNDREDeTHOUSANDaOUNCE SIGNaOUTBOX TRAY",
   "aOUTLINED BLACK STARbGREEK CROSSbLATIN CROSSbWHITE STARaOVERHEATED FACEaOVERLAP",
   "aOVERLAPPING BLACK SQUARESbWHITE AND BLACK SQUAREScSQUARESaOVERLINEaOWLaOXaOYSTERaPACKAGEaPAD",
   "aPADDING CHARACTERaPAGEbFACING UPbWITH CIRCLED TEXTcCURLaPAGERaPAGESaPAGODA",
   "aPAHAWH HMONG CLAN SIGN FAJeHAMeHAWJeKHABeKOOeKWMeLAUJeLISeMUASePHABeTHOJeTSABeTSHEEJeTSWBeVAJ",
   "eVWJeXYOOJeYAJeYEEGcCONSONANT AUdCAUdCHAUdHAUdHLAUdHNAUdLAUdMAUdNAUdNCHAUdNKAUdNLAUdNTHAU",
   "dNTSAUdPLHAUdQHAUdRAUdVAUdXAUdYAUcDIGIT EIGHTdFIVEdFOURdNINEdONEdSEVENdSIXdTHREEdTWOdZERO",
   "cMARK CIM HOMeKESeKHAVeSOeSUAMeTAUMeTUBcNUMBER HUNDRED MILLIONSdHUNDREDSdMILLIONSdTEN BILLIONS",
   "eTHOUSANDSdTENSdTRILLIONScSIGN AVdCIM CHEEMeCUAM TSHOOJeHAIS LUS NTOG NTOGeNRES TOSePUB DAWB",
   "eTSOV ROGeTXWVfCHWVdHLIdHNUBdIB YAMdLOSdMEEJ SUABeTSEEBdMUSdNQIGdNTUJdTAUdTHIRD-STAGE HLI",
   "dTXHEEJ CEEVdVOS FEEMeLUBeNRUAeSEEVeTHIABeTHOMeTSHAB CEEBdXAUSdXIABdXYEEM FAIBeNTXIVeRHOeTOV",
   "dXYOOdZWJ THAJcVOWEL KAABdKAAVdKABdKAIBdKAIVdKAUBdKAUVdKAVdKAWBdKAWVdKEBdKEEBdKEEVdKEVdKIAB",
   "dKIAVdKIBdKIVdKOBdKOOBdKOOVdKOVdKUABdKUAVdKUBdKUVdKWBdKWVaPALLASaPALM BRANCHbDOWN HANDbTREE",
   "bUP HANDaPALMS UP TOGETHERaPALMYRENE LEFT-POINTING FLEURONbLETTER ALEPHcAYINcBETHcDALETH",
   "cFINAL NUNcGIMELcHEcHETHcKAPHcLAMEDHcMEMcNUNcPEcQOPHcRESHcSADHEcSAMEKHcSHINcTAWcTETHcWAWcYODH",
   "cZAYINbNUMBER FIVEcFOURcONEcTENcTHREEcTWENTYcTWObRIGHT-POINTING FLEURONaPANCAKESaPANDA FACE",
   "aPAPERCLIPaPARACHUTEaPARAGRAPH SEPARATORaPARAGRAPHOSaPARAGRAPHUS MARKaPARALLEL TO",
   "bWITH HORIZONTAL STROKEcTILDE OPERATORaPARENTHESIZED DIGIT EIGHTcFIVEcFOURcNINEcONEcSEVENcSIX",
   "cTHREEcTWObHANGUL CHIEUCHdAcCIEUCdAdUcHIEUHdAcIEUNGdAcKHIEUKHdAcKIYEOKdAcMIEUMdAcNIEUNdA",
   "cPHIEUPHdAcPIEUPdAcRIEULdAcSIOSdAcTHIEUTHdAcTIKEUTdAbIDEOGRAPH ALLIANCEcCALLcCONGRATULATION",
   "cEARTHcEIGHTcENTERPRISEcFESTIVALcFINANCIALcFIREcFIVEcFOURcHAVEcLABORcMETALcMOONcNAMEcNINEcONE",
   "cREACHcREPRESENTcRESOURCEcRESTcSELFcSEVENcSIXcSOCIETYcSPECIALcSTOCKcSTUDYcSUNcSUPERVISEcTEN",
   "cTHREEcTWOcWATERcWOODbKOREAN CHARACTER O HUdOJEONbLATIN CAPITAL LETTER AeBeCeDeEeFeGeHeIeJeKeL",
   "eMeNeOePeQeReSeTeUeVeWeXeYeZcSMALL LETTER AeBeCeDeEeFeGeHeIeJeKeLeMeNeOePeQeReSeTeUeVeWeXeYeZ",
   "bNUMBER EIGHTEENcELEVENcFIFTEENcFOURTEENcNINETEENcSEVENTEENcSIXTEENcTENcTHIRTEENcTWELVEcTWENTY",
   "aPARROTaPART ALTERNATION MARKaPARTIAL DIFFERENTIALbLINE BACKWARDcDOWNcFORWARDcUP",
   "aPARTIALLY-RECYCLED PAPER SYMBOLaPARTNERSHIP SIGNaPARTY POPPERaPASSED SYMBOLaPASSENGER SHIP",
   "aPASSIVE-PULL-DOWN-OUTPUT SYMBOLaPASSIVE-PULL-UP-OUTPUT SYMBOLaPASSPORT CONTROL",
   "aPAU CIN HAU GLOTTAL STOPfFINALfVARIANTdLETTER AeBAeCAeCHAeDAeEeFAeFINAL KfLfMfNfNGfPfTfWfYeGA",
   "eHAeIeIAeKAeKHAeLAeMAeNAeNGAeOePAePHAeRAeSAeTAeTHAeUeUAeVAeZAdLOW-FALLING TONEfFINALfLONG",
   "gFINALdMID-LEVEL TONEfFINALfLONG FINALdRISING TONEfFINALfLONGgFINALdSANDHI GLOTTAL STOPgFINAL",
   "eTONEfFINALfLONGgFINALaPAW PRINTSaPDFaPDIaPEACE SYMBOLaPEACHaPEACOCKaPEANUTSaPEARaPEDESTRIAN",
   "aPEN OVER STAMPED ENVELOPEaPENCILaPENGUINaPENSIVE FACEaPENTAGRAMaPEOPLE HUGGINGaPER MILLE SIGN",
   "bSIGNbTEN THOUSAND SIGNaPERCENT SIGNaPERFORMING ARTSaPERMANENT PAPER SIGNaPERPENDICULARbWITH S",
   "aPERSEVERING FACEaPERSON BOWING DEEPLYbCLIMBINGbDOING CARTWHEELbFROWNINGbIN LOTUS POSITION",
   "cSTEAMY ROOMbRAISING BOTH HANDS IN CELEBRATIONbWITH BALLcBLOND HAIRcCROWNcFOLDED HANDS",
   "cHEADSCARFcPOUTING FACEaPERSONAL COMPUTERaPERSPECTIVEaPESETA SIGNaPESO SIGNaPETRI DISH",
   "aPHAGS-PA DOUBLE HEAD MARKbLETTER AcALTERNATE YAcASPIRATED FAcBAcCAcCANDRABINDUcCHAcDAcDDAcDZA",
   "cEcEEcFAcGAcGGAcHAcIcJAcKAcKHAcLAcMAcNAcNGAcNNAcNYAcOcPAcPHAcQAcRAcSAcSHAcSMALL AcTAcTHAcTSA",
   "cTSHAcTTAcTTHAcUcVOICED HAcVOICELESS SHAcWAcXAcYAcZAcZHAbMARK DOUBLE SHADcSHAD",
   "bSINGLE HEAD MARKbSUBJOINED LETTER RAdWAdYAbSUPERFIXED LETTER RAaPHAISTOS DISC SIGN ARROWdBEE",
   "dBEEHIVEdBOOMERANGdBOWdBULLS LEGdCAPTIVEdCARPENTRY PLANEdCATdCHILDdCLUBdCOLUMNdCOMB",
   "dCOMBINING OBLIQUE STROKEdDOLIUMdDOVEdEAGLEdFLUTEdGAUNTLETdGRATERdHELMETdHIDEdHORNdLIDdLILY",
   "dMANACLESdMATTOCKdOX BACKdPAPYRUSdPEDESTRIANdPLANE TREEdPLUMED HEADdRAMdROSETTEdSAWdSHIELD",
   "dSHIPdSLINGdSMALL AXEdSTRAINERdTATTOOED HEADdTIARAdTUNNYdVINEdWAVY BANDdWOMAN",
   "aPHILIPPINE DOUBLE PUNCTUATIONbSINGLE PUNCTUATIONaPHOENICIAN LETTER AINcALFcBETcDELTcGAMLcHE",
   "cHETcKAFcLAMDcMEMcNUNcPEcQOFcROSHcSADEcSEMKcSHINcTAUcTETcWAUcYODcZAIbNUMBER ONEdHUNDREDcTEN",
   "cTHREEcTWENTYcTWObWORD SEPARATORaPHOLUSaPICKaPICKUP TRUCKaPIEaPIGbFACEbNOSEaPILCROW SIGN",
   "aPILE OF POOaPILLaPINATAaPINCHED FINGERSaPINCHING HANDaPINE DECORATIONaPINEAPPLEaPINWHEEL STAR",
   "aPISCESaPISTOLaPITCHFORKbWITH TEE TOPaPLACARDaPLACE OF INTEREST SIGNcWORSHIPaPLANCK CONSTANT",
   "cOVER TWO PIaPLAYGROUND SLIDEaPLAYING CARD ACE OF CLUBSeDIAMONDSeHEARTSeSPADEScBACK",
   "cBLACK JOKERcEIGHT OF CLUBSeDIAMONDSeHEARTSeSPADEScFIVE OF CLUBSeDIAMONDSeHEARTSeSPADEScFOOL",
   "cFOUR OF CLUBSeDIAMONDSeHEARTSeSPADEScJACK OF CLUBSeDIAMONDSeHEARTSeSPADEScKING OF CLUBS",
   "eDIAMONDSeHEARTSeSPADEScKNIGHT OF CLUBSeDIAMONDSeHEARTSeSPADEScNINE OF CLUBSeDIAMONDSeHEARTS",
   "eSPADEScQUEEN OF CLUBSeDIAMONDSeHEARTSeSPADEScRED JOKERcSEVEN OF CLUBSeDIAMONDSeHEARTSeSPADES",
   "cSIX OF CLUBSeDIAMONDSeHEARTSeSPADEScTEN OF CLUBSeDIAMONDSeHEARTSeSPADEScTHREE OF CLUBS",
   "eDIAMONDSeHEARTSeSPADEScTRUMP-1cTRUMP-10cTRUMP-11cTRUMP-12cTRUMP-13cTRUMP-14cTRUMP-15cTRUMP-16",
   "cTRUMP-17cTRUMP-18cTRUMP-19cTRUMP-2cTRUMP-20cTRUMP-21cTRUMP-3cTRUMP-4cTRUMP-5cTRUMP-6cTRUMP-7",
   "cTRUMP-8cTRUMP-9cTWO OF CLUBSeDIAMONDSeHEARTSeSPADEScWHITE JOKERaPLDaPLUaPLUNGERaPLUS SIGN",
   "cABOVE EQUALS SIGNcIN LEFT HALF CIRCLEdRIGHT HALF CIRCLEdTRIANGLEcWITH BLACK TRIANGLE",
   "dCIRCUMFLEX ACCENT ABOVEdDOT BELOWdSMALL CIRCLE ABOVEdSUBSCRIPT TWOdTILDE ABOVEeBELOW",
   "aPLUS-MINUS SIGNaPLUTObFORM FIVEcFOURcTHREEcTWOaPMaPOCKET CALCULATORaPOLICE CAR",
   "bCARS REVOLVING LIGHTbOFFICERaPOODLEaPOP DIRECTIONAL FORMATTINGcISOLATEaPOPCORN",
   "aPORTABLE STEREOaPOSEIDONaPOSITION INDICATORaPOSTAL HORNbMARKcFACEaPOSTBOXaPOT OF FOOD",
   "aPOTABLE WATER SYMBOLaPOTATOaPOTTED PLANTaPOUCHaPOULTRY LEGaPOUND SIGNaPOURING LIQUID",
   "aPOUTING CAT FACEbFACEaPOWER ON SYMBOLbON-OFF SYMBOLbSLEEP SYMBOLbSYMBOLaPRAYER BEADSaPRECEDES",
   "bABOVE ALMOST EQUAL TOcEQUALS SIGNcNOT ALMOST EQUAL TOdEQUAL TOcSINGLE-LINE EQUALS SIGN",
   "dNOT EQUAL TObBUT NOT EQUIVALENT TObOR EQUAL TOcEQUIVALENT TObUNDER RELATIONaPREGNANT MAN",
   "bPERSONbWOMANaPRESCRIPTION TAKEaPRESENTATION FORM FOR VERTICAL COLONeCOMMAeEM DASHeEN DASH",
   "eEXCLAMATION MARKeHORIZONTAL ELLIPSISeIDEOGRAPHIC COMMAfFULL STOPeLEFT ANGLE BRACKET",
   "fBLACK LENTICULAR BRACKETfCORNER BRACKETfCURLY BRACKETfDOUBLE ANGLE BRACKETfPARENTHESIS",
   "fSQUARE BRACKETfTORTOISE SHELL BRACKETfWHITE CORNER BRACKETgLENTICULAR BRACKETeLOW LINE",
   "eQUESTION MARKeRIGHT ANGLE BRACKETfBLACK LENTICULAR BRACKETfCORNER BRACKETfCURLY BRACKET",
   "fDOUBLE ANGLE BRACKETfPARENTHESISfSQUARE BRACKETfTORTOISE SHELL BRACKETfWHITE CORNER BRACKET",
   "gLENTICULAR BRACKEThBRAKCETeSEMICOLONeTWO DOT LEADEReWAVY LOW LINEaPRETZELaPREVIOUS PAGEaPRIME",
   "aPRINCEaPRINCESSaPRINT SCREEN SYMBOLaPRINTERbICONaPRIVACY MESSAGEaPRIVATE USE ONEcTWObUSE-1",
   "bUSE-2aPROBING CANEaPROHIBITED SIGNaPROJECTIVEaPROPERTY LINEaPROPORTIONaPROPORTIONAL TO",
   "aPROSERPINAaPSALTER PAHLAVI FOUR DOTS WITH CROSSfDOTcLETTER ALEPHdBETHdDALETHdGIMELdHEdHETH",
   "dKAPHdLAMEDHdMEM-QOPHdNUNdPEdSADHEdSAMEKHdSHINdTAWdWAW-AYIN-RESHdYODHdZAYINcNUMBER FOURdONE",
   "eHUNDREDdTENdTHREEdTWENTYdTWOcSECTION MARKcTURNED SECTION MARKaPU1aPU2",
   "aPUBLIC ADDRESS LOUDSPEAKERaPUNCTUATION SPACEaPUNCTUS ELEVATUS MARKaPURPLE HEARTaPURSEaPUSHPIN",
   "aPUT LITTER IN ITS PLACE SYMBOLaQUADRANT LOWER LEFTcRIGHTbUPPER LEFT",
   "dAND LOWER LEFT AND LOWER RIGHTfRIGHTeUPPER RIGHT AND LOWER LEFTiRIGHTcRIGHTdAND LOWER LEFT",
   "gAND LOWER RIGHTaQUADRUPLE INTEGRAL OPERATORbPRIMEaQUARTER NOTEaQUATERNION INTEGRAL OPERATOR",
   "aQUESTION EXCLAMATION MARKbMARKaQUESTIONED EQUAL TOaQUINCUNXaQUOTATION MARKaRABBITbFACE",
   "aRACCOONaRACING CARbMOTORCYCLEaRADICAL SYMBOL BOTTOMaRADIObBUTTONaRADIOACTIVE SIGNaRAILWAY CAR",
   "bTRACKaRAINaRAINBOWaRAISED BACK OF HANDbCOMMAbDOTbDOTTED INTERPOLATION MARKERbFISTbHAND",
   "cWITH FINGERS SPLAYEDdPART BETWEEN MIDDLE AND RING FINGERSbINTERPOLATION MARKERbMC SIGN",
   "bMD SIGNbMR SIGNbSQUAREaRAMaRATaRATIOaRAZORaRECEIPTaRECORD SEPARATORaRECREATIONAL VEHICLE",
   "aRECYCLED PAPER SYMBOLaRECYCLING SYMBOL FOR GENERIC MATERIALSdTYPE-1 PLASTICSdTYPE-2 PLASTICS",
   "dTYPE-3 PLASTICSdTYPE-4 PLASTICSdTYPE-5 PLASTICSdTYPE-6 PLASTICSdTYPE-7 PLASTICSaRED APPLE",
   "bGIFT ENVELOPEaREFERENCE MARKaREGIONAL INDICATOR SYMBOL LETTER AeBeCeDeEeFeGeHeIeJeKeLeMeNeOeP",
   "eQeReSeTeUeVeWeXeYeZaREGISTERED SIGNaREJANG CONSONANT SIGN HdNdNGdRbLETTER AcBAcCAcDAcGAcHAcJA",
   "cKAcLAcMAcMBAcNAcNDAcNGAcNGGAcNYAcNYJAcPAcRAcSAcTAcWAcYAbSECTION MARKbVIRAMAbVOWEL SIGN AIdAU",
   "dEdEAdEUdIdOdUaRELIEVED FACEaREMINDER RIBBONaREPLACEMENT CHARACTERaRESPONSE",
   "aRESTRICTED LEFT ENTRY-1cENTRY-2aRESTROOMaRETURN LEFTbRIGHTbSYMBOLaREVERSE CHECKER BOARDbINDEX",
   "bLIGHT FOUR POINTED PINWHEEL STARbLINE FEEDbSOLIDUScOPERATORcPRECEDING SUBSET",
   "cWITH HORIZONTAL STROKEbTILDE OPERATOR ABOVE LEFTWARDS ARROWeRIGHTWARDS ARROWaREVERSED ANGLE",
   "cWITH UNDERBARbCOMMAbDOUBLE PRIMEdQUOTATION MARKcSTROKE NOT SIGNbEMPTY SETbFORKED PARAGRAPHOS",
   "bHAND WITH MIDDLE FINGER EXTENDEDbNOT SIGNbPILCROW SIGNbPRIMEbQUESTION MARK",
   "bRAISED HAND WITH FINGERS SPLAYEDbRIGHT ANGLEbROTATED FLORAL HEART BULLETbSANS-SERIF CAPITAL L",
   "bSEMICOLONbTHUMBS DOWN SIGNcUP SIGNbTILDEcEQUALSbTRIPLE PRIMEbVICTORY HANDaREVOLVING HEARTS",
   "aRHINOCEROSaRIaRIAL SIGNaRIBBONbARROW DOWN LEFTdRIGHTcLEFT DOWNdUPcRIGHT DOWNdUPcUP LEFTdRIGHT",
   "aRICE BALLbCRACKERaRIFLEaRIGHT AND LOWER ONE EIGHTH BLOCKcUPPER ONE EIGHTH BLOCKbANGER BUBBLE",
   "bANGLEcBRACKETdWITH DOTcDOTTED SUBSTITUTION MARKERcSUBSTITUTION MARKERcVARIANT WITH SQUARE",
   "cWITH ARCdDOWNWARDS ZIGZAG ARROWbARC GREATER-THAN BRACKETbARROW WITH CIRCLED PLUSdSMALL CIRCLE",
   "bBLACK LENTICULAR BRACKETcTORTOISE SHELL BRACKETbCEILINGbCORNER BRACKETbCURLY BRACKET",
   "dLOWER HOOKdMIDDLE PIECEdUPPER HOOKbDOTTED SUBSTITUTION BRACKETbDOUBLE ANGLE BRACKET",
   "cARROW WITH ROUNDED HEADcPARENTHESIScQUOTATION MARKcWIGGLY FENCEbFISH TAILbFIVE EIGHTHS BLOCK",
   "bFLOORbHALF BLACK CIRCLEdSTARcBLOCKcFOLDERcMEDIUM SHADEcRUNNING MANbHAND TELEPHONE RECEIVER",
   "bLOW PARAPHRASE BRACKETbNORMAL FACTOR SEMIDIRECT PRODUCTbONE EIGHTH BLOCKcQUARTER BLOCK",
   "bOPEN SQUARED DOTbOUTER JOINbPARENTHESIScEXTENSIONcLOWER HOOKcUPPER HOOK",
   "bRAISED OMISSION BRACKETbS-SHAPED BAG DELIMITERbSEMIDIRECT PRODUCTbSEVEN EIGHTHS BLOCK",
   "bSIDEWAYS U BRACKETbSINGLE QUOTATION MARKbSPEAKERcWITH ONE SOUND WAVEdTHREE SOUND WAVES",
   "bSPEECH BUBBLEbSQUARE BRACKETdEXTENSIONdLOWER CORNERdUPPER CORNERdWITH DOUBLE STROKEeQUILL",
   "eSTROKEeTICK IN BOTTOM CORNERgTOP CORNEReUNDERBARbSUBSTITUTION BRACKETbTACK",
   "bTHIRD WHITE RIGHT POINTING INDEXbTHOUGHT BUBBLEbTHREE EIGHTHS BLOCKcQUARTERS BLOCK",
   "bTORTOISE SHELL BRACKETbTRANSPOSITION BRACKETbTRIANGLEcABOVE LEFT TRIANGLE",
   "bTRIANGULAR ONE QUARTER BLOCKbVERTICAL BAR WITH QUILLcBOX LINEbWHITE CORNER BRACKET",
   "cCURLY BRACKETcLENTICULAR BRACKETcPARENTHESIScSQUARE BRACKETcTORTOISE SHELL BRACKET",
   "bWIGGLY FENCEaRIGHT-FACING ARMENIAN ETERNITY SIGNbFISTbSVASTI SIGNdWITH DOTS",
   "aRIGHT-HANDED INTERLACED PENTAGRAMaRIGHT-POINTING ANGLE BRACKETbCURVED ANGLE BRACKET",
   "bDOUBLE ANGLE QUOTATION MARKbMAGNIFYING GLASSaRIGHT-SHADED WHITE RIGHTWARDS ARROW",
   "aRIGHT-SIDE ARC CLOCKWISE ARROWaRIGHT-TO-LEFT EMBEDDINGbISOLATEbMARKbOVERRIDE",
   "aRIGHTHAND INTERIOR PRODUCTaRIGHTWARDS ARROWcABOVE ALMOST EQUAL TOdREVERSE ALMOST EQUAL TO",
   "eTILDE OPERATORdSHORT LEFTWARDS ARROWdTILDE OPERATORcAND UPPER AND LOWER ONE EIGHTH BLOCK",
   "cFROM BAReTO BLACK DIAMONDcOVER LEFTWARDS ARROWcTHROUGH GREATER-THANdSUPERSETdXcTO BAR",
   "dBLACK DIAMONDcWITH CORNER DOWNWARDSdDOTTED STEMdDOUBLE VERTICAL STROKEdEQUILATERAL ARROWHEAD",
   "dHOOKdLARGE TRIANGLE ARROWHEADdLOOPdMEDIUM TRIANGLE ARROWHEADdNOTCHED TAILdPLUS BELOW",
   "dSMALL EQUILATERAL ARROWHEADeTRIANGLE ARROWHEADdSTROKEdTAILeWITH DOUBLE VERTICAL STROKE",
   "fVERTICAL STROKEdTIP DOWNWARDSeUPWARDSdVERTICAL STROKEbARROW-TAIL",
   "bBACK-TILTED SHADOWED WHITE ARROWbBLACK ARROWcCIRCLED WHITE ARROWbBOTTOM SHADED WHITE ARROW",
   "bCOMPRESSED ARROWbDASHED ARROWbDOUBLE ARROWdFROM BARdWITH STROKEeVERTICAL STROKEcARROW-TAIL",
   "cDASH ARROWbFINGER-POST ARROWbFRONT-TILTED SHADOWED WHITE ARROWbHAND",
   "bHARPOON OVER LEFTWARDS HARPOONcWITH BARB DOWN ABOVE LEFTWARDS HARPOON WITH BARB DOWN",
   "fBELOW LONG DASHfFROM BARfTO BAReDOWNWARDSeUP ABOVE LEFTWARDS HARPOON WITH BARB UPgLONG DASH",
   "gRIGHTWARDS HARPOON WITH BARB DOWNfFROM BARfTO BAReUPWARDSbHEAVY ARROWcCOMPRESSED ARROW",
   "bLEFT-SHADED WHITE ARROWbOPEN-HEADED ARROWbPAIRED ARROWSbQUADRUPLE ARROW",
   "bRIGHT-SHADED WHITE ARROWbROCKETbSANS-SERIF ARROWbSQUARED ARROWbSQUIGGLE ARROW",
   "bTOP SHADED WHITE ARROWbTRIANGLE ARROWHEADbTRIANGLE-HEADED ARROW",
   "dOVER LEFTWARDS TRIANGLE-HEADED ARROWdTO BARdWITH BOLD SHAFTeDOUBLE HORIZONTAL STROKE",
   "fVERTICAL STROKEeHEAVY SHAFTeLONG TIP DOWNWARDSgUPWARDSeMEDIUM SHAFTeNARROW SHAFT",
   "eVERY HEAVY SHAFTcDASHED ARROWcPAIRED ARROWSbTRIPLE ARROWcDASH ARROWbTWO HEADED ARROW",
   "bTWO-HEADED ARROW FROM BARdWITH DOUBLE VERTICAL STROKEeTAILfWITH DOUBLE VERTICAL STROKE",
   "gVERTICAL STROKEeTRIANGLE ARROWHEADSeVERTICAL STROKEcTRIPLE DASH ARROWbWAVE ARROWbWHITE ARROW",
   "dFROM WALLdWITHIN TRIANGLE ARROWHEADaRINGbABOVEbBUOYbEQUAL TObIN EQUAL TObOPERATORbPOINT",
   "aRINGED PLANETaRINGING BELLaRISING DIAGONAL CROSSING FALLING DIAGONALdSOUTH EAST ARROWaRLEaRLI",
   "aRLMaRLOaROASTED SWEET POTATOaROBOT FACEaROCKaROCKETaROLL OF PAPERaROLLED-UP NEWSPAPER",
   "aROLLER COASTERbSKATEaROLLING ON THE FLOOR LAUGHINGaROMAN AS SIGNbCENTURIAL SIGNbDENARIUS SIGN",
   "bDIMIDIA SEXTULA SIGNbDUPONDIUS SIGNbNUMERAL EIGHTcELEVENcFIFTYdEARLY FORMdTHOUSANDcFIVE",
   "dHUNDREDdTHOUSANDcFOURcNINEcONEdHUNDREDeTHOUSANDdTHOUSANDeC DcREVERSED ONE HUNDREDcSEVENcSIX",
   "dLATE FORMcTENdTHOUSANDcTHREEcTWELVEcTWObQUINARIUS SIGNbSEMUNCIA SIGNbSESTERTIUS SIGN",
   "bSEXTANS SIGNbSEXTULA SIGNbSILIQUA SIGNbUNCIA SIGNaROOSTERaROSEaROSETTEaROTATED CAPITAL Q",
   "bFLORAL HEART BULLETbHEAVY BLACK HEART BULLETbLIGHT FOUR POINTED BLACK CUSP",
   "bWHITE FOUR POINTED CUSPaROUND PUSHPINbTARGETaROUNDED SYMBOL FOR CAIdFUdLUdSHOUdSHUANGXIdXI",
   "aROWBOATaRSaRUBLE SIGNaRUGBY FOOTBALLaRULE-DELAYEDaRUMI DIGIT EIGHTcFIVEcFOURcNINEcONEcSEVEN",
   "cSIXcTHREEcTWObFRACTION ONE HALFdQUARTERdTHIRDcTWO THIRDSbNUMBER EIGHT HUNDREDcEIGHTYcFIFTY",
   "cFIVE HUNDREDcFORTYcFOUR HUNDREDcNINE HUNDREDcNINETYcONE HUNDREDcSEVEN HUNDREDcSEVENTY",
   "cSIX HUNDREDcSIXTYcTENcTHIRTYcTHREE HUNDREDcTWENTYcTWO HUNDREDaRUNIC ARLAUG SYMBOL",
   "bBELGTHOR SYMBOLbCROSS PUNCTUATIONbLETTER AC AcAESCcALGIZ EOLHXcANSUZ A",
   "cBERKANAN BEORC BJARKAN BcCcCALCcCEALCcCENcCWEORTHcDcDAGAZ DAEG DcDOTTED-LcDOTTED-NcDOTTED-PcE",
   "cEARcEHWAZ EH EcENGcETHcFEHU FEOH FE FcFRANKS CASKET ACeAESCeEHeISeOScGcGARcGEBO GYFU GcGER",
   "cHAEGL HcHAGLAZ HcICELANDIC-YRcINGcINGWAZcIORcISAZ IS ISS IcIWAZ EOHcJERAN JcKcKAUN KcKAUNA",
   "cLAUKAZ LAGU LOGR LcLONG-BRANCH-AR AEcLONG-BRANCH-HAGALL HcLONG-BRANCH-MADR M",
   "cLONG-BRANCH-OSS OcLONG-BRANCH-YRcMANNAZ MAN McNAUDIZ NYD NAUD NcOcOEcONcOOcOPEN-PcOS O",
   "cOTHALAN ETHEL OcPERTHO PEORTH PcQcRAIDO RAD REID RcSHcSHORT-TWIG-AR AcSHORT-TWIG-BJARKAN B",
   "cSHORT-TWIG-HAGALL HcSHORT-TWIG-MADR McSHORT-TWIG-NAUD NcSHORT-TWIG-OSS OcSHORT-TWIG-SOL S",
   "cSHORT-TWIG-TYR TcSHORT-TWIG-YRcSIGEL LONG-BRANCH-SOL ScSOWILO ScSTANcTHURISAZ THURS THORN",
   "cTIWAZ TIR TYR TcURUZ UR UcVcWcWUNJO WYNN WcXcYcYRcZbMULTIPLE PUNCTUATIONbSINGLE PUNCTUATION",
   "bTVIMADUR SYMBOLaRUNNERaRUNNING SHIRT WITH SASHaRUPEE SIGN",
   "aRUSSIAN ASTROLOGICAL SYMBOL BINOVILEdNOVILEdQUINTILEdSENTAGONdTREDECILEdVIGINTILE",
   "aS IN TRIANGLEaSAFETY PINbVESTaSAGITTARIUSaSAILBOATaSAKE BOTTLE AND CUPaSALT SHAKERaSALTIRE",
   "aSALUTING FACEaSAMARITAN ABBREVIATION MARKbLETTER ALAFcBAAcBITcDALATcFIcGAMANcINcITcIYcKAAF",
   "cLABATcMIMcNUNcQUFcRISHcSHANcSINGAATcTAAFcTITcTSAADIYcYUTcZENbMARK DAGESHcEPENTHETIC YUTcIN",
   "cIN-ALAFcNEQUDAAcOCCLUSIONbMODIFIER LETTER EPENTHETIC YUTdIdSHORT AbPUNCTUATION AFSAAQcANGED",
   "cANNAAUcARKAANUcATMAAUcBAUcMELODIC QITSAcNEQUDAAcQITSAcSHIYYAALAAcSOF MASHFAATcTURUcZAEFcZIQAA",
   "bVOWEL SIGN AdAAdEdIdLONG AeAAeEeIeUdOdOVERLONG AeAAdSHORT AdSUKUNdUaSANDWICH",
   "aSANS-SERIF HEAVY DOUBLE COMMA QUOTATION MARK ORNAMENTdTURNED COMMA QUOTATION MARK ORNAMENT",
   "cLOW DOUBLE COMMA QUOTATION MARK ORNAMENTbINTERROBANG ORNAMENTaSARIaSATELLITEbANTENNAaSATURN",
   "aSAURASHTRA CONSONANT SIGN HAARUbDANDAbDIGIT EIGHTcFIVEcFOURcNINEcONEcSEVENcSIXcTHREEcTWOcZERO",
   "bDOUBLE DANDAbLETTER AcAAcAIcAUcBAcBHAcCAcCHAcDAcDDAcDDHAcDHAcEcEEcGAcGHAcHAcIcIIcJAcJHAcKA",
   "cKHAcLAcLLAcMAcNAcNGAcNNAcNYAcOcOOcPAcPHAcRAcSAcSHAcSSAcTAcTHAcTTAcTTHAcUcUUcVAcVOCALIC LdLLdR",
   "dRRcYAbSIGN ANUSVARAcCANDRABINDUcVIRAMAcVISARGAbVOWEL SIGN AAdAIdAUdEdEEdIdIIdOdOOdUdUU",
   "dVOCALIC LeLLeReRRaSAUROPODaSAXOPHONEaSCALESaSCARFaSCHOOLbSATCHELaSCIaSCOOTERaSCORPION",
   "aSCORPIUSaSCREENaSCREWDRIVERaSCRIPT CAPITAL BcEcFcHcIcLcMcPcRbLIGATURE ET ORNAMENTbSMALL EcGcL",
   "cOaSCROLLaSCRUPLEaSEALaSEATaSECOND PLACE MEDALaSECTION SIGNaSECTORaSEDNAaSEE-NO-EVIL MONKEY",
   "aSEEDLINGaSEGMENTaSEGMENTED DIGIT EIGHTcFIVEcFOURcNINEcONEcSEVENcSIXcTHREEcTWOcZEROaSELFIE",
   "aSEMICOLONaSEMIDIRECT PRODUCT WITH BOTTOM CLOSEDaSEMISEXTILEaSEPARATED SYMBOL",
   "aSERIOUS FACE WITH SYMBOLS COVERING MOUTHaSERVICE MARKaSESAME DOTaSESQUIQUADRATEaSET MINUS",
   "bTRANSMIT STATEaSEWING NEEDLEaSEXTILEaSGCaSHADOWED WHITE CIRCLEcLATIN CROSScSTAR",
   "aSHALLOW PAN OF FOODaSHAMROCKaSHARADA ABBREVIATION SIGNbCONTINUATION SIGNbDANDAbDIGIT EIGHT",
   "cFIVEcFOURcNINEcONEcSEVENcSIXcTHREEcTWOcZERObDOUBLE DANDAbEKAMbEXTRA SHORT VOWEL MARK",
   "bHEADSTROKEbLETTER AcAAcAIcAUcBAcBHAcCAcCHAcDAcDDAcDDHAcDHAcEcGAcGHAcHAcIcIIcJAcJHAcKAcKHAcLA",
   "cLLAcMAcNAcNGAcNNAcNYAcOcPAcPHAcRAcSAcSHAcSSAcTAcTHAcTTAcTTHAcUcUUcVAcVOCALIC LdLLdRdRRcYAbOM",
   "bSANDHI MARKbSECTION MARK-1cMARK-2bSEPARATORbSIGN ANUSVARAcAVAGRAHAcCANDRABINDU",
   "cINVERTED CANDRABINDUcJIHVAMULIYAcNUKTAcSIDDHAMcUPADHMANIYAcVIRAMAcVISARGAbSUTRA MARK",
   "bVOWEL MODIFIER MARKcSIGN AAdAIdAUdEdIdIIdOdPRISHTHAMATRA EdUdUUdVOCALIC LeLLeReRRaSHARK",
   "aSHAVED ICEaSHAVIAN LETTER ADOcAGEcAHcAIRcAREcARRAYcASHcAWEcBIBcCHURCHcDEADcEARcEATcEGGcERR",
   "cFEEcGAGcHA-HAcHUNGcIANcICEcIFcJUDGEcKICKcLOLLcMEASUREcMIMEcNUNcOAKcOILcONcOOZEcORcOUTcPEEP",
   "cROARcSOcSUREcTHEYcTHIGHcTOTcUPcVOWcWOEcWOOLcYEAcYEWcZOOaSHEEPaSHIELDaSHIFT INbOUT",
   "aSHINTO SHRINEaSHIPaSHOCKED FACE WITH EXPLODING HEADaSHOOTING STARaSHOPPING BAGSbTROLLEY",
   "aSHORT BACKSLANTED SOUTH ARROWbBENT ARROW POINTING DOWNWARDS THEN NORTH EASTbDOWN TACK",
   "dWITH OVERBARbLEFT TACKbRIGHTWARDS ARROW ABOVE LEFTWARDS ARROWbSLANTED NORTH ARROWbUP TACK",
   "dABOVE SHORT DOWN TACKdWITH UNDERBARaSHORTCAKEaSHORTHAND FORMAT CONTINUING OVERLAPcDOWN STEP",
   "cLETTER OVERLAPcUP STEPaSHORTSaSHOULDERED OPEN BOXaSHOWERaSHRIMPaSHRUGaSHUFFLE PRODUCTaSHYaSI",
   "aSIDDHAM DANDAbDOUBLE DANDAbEND OF TEXT MARKbLETTER AcAAcAIcALTERNATE UcAUcBAcBHAcCAcCHAcDA",
   "cDDAcDDHAcDHAcEcGAcGHAcHAcIcIIcJAcJHAcKAcKHAcLAcMAcNAcNGAcNNAcNYAcOcPAcPHAcRAcSAcSHAcSSAcTA",
   "cTHAcTHREE-CIRCLE ALTERNATE IcTTAcTTHAcTWO-CIRCLE ALTERNATE IeIIcUcUUcVAcVOCALIC LdLLdRdRRcYA",
   "bREPETITION MARK-1cMARK-2cMARK-3bSECTION MARK DOUBLE RINGfWITH RAYS",
   "dWITH CIRCLES AND FOUR ENCLOSURESgRAYSgTWO ENCLOSURESeDOUBLE CRESCENTSeQUADRUPLE CRESCENTS",
   "eRAYS AND DOTTED CRESCENTShDOUBLE CRESCENTShTRIPLE CRESCENTSeSEPTUPLE CRESCENTS",
   "eTRIDENT AND DOTTED CRESCENTSgU-SHAPED ORNAMENTSeTRIPLE CRESCENTSbSEPARATOR BARcDOT",
   "bSIGN ANUSVARAcCANDRABINDUcNUKTAcSIDDHAMcVIRAMAcVISARGAbVOWEL SIGN AAdAIdALTERNATE UeUUdAUdEdI",
   "dIIdOdUdUUdVOCALIC ReRRaSIDEWAYS BLACK DOWN POINTING INDEXcLEFT POINTING INDEX",
   "cRIGHT POINTING INDEXcUP POINTING INDEXbWHITE DOWN POINTING INDEXcLEFT POINTING INDEX",
   "cRIGHT POINTING INDEXcUP POINTING INDEXaSIGN OF THE HORNSaSIGNWRITING AIR BLOW SMALL ROTATIONS",
   "cBLOWING OUTcSUCK SMALL ROTATIONScSUCKING INbBREATH EXHALEcINHALEbBRUSH BETWEENcMULTIPLE",
   "cSINGLEbCHEEKS NEUTRALcPUFFEDcSUCKEDbCOLONbCOMMAbDREAMY EYEBROWS DOWN NEUTRALdNEUTRAL DOWNeUP",
   "dUP NEUTRALbDYNAMIC ARROWHEAD LARGEdSMALLcEVERY OTHER TIMEcFASTcGRADUALcRELAXEDcSIMULTANEOUS",
   "dALTERNATINGcSLOWcTENSEbEARSbEXCITEMENTbEYE BLINK MULTIPLEdSINGLEcWINKbEYEBROWS STRAIGHT DOWN",
   "dNEUTRALdUPbEYEGAZE-FLOORPLANE CURVEDcSTRAIGHTdALTERNATINGdDOUBLEbEYEGAZE-WALLPLANE CIRCLING",
   "cCURVEDcSTRAIGHTdALTERNATINGdDOUBLEbEYELASHES DOWNcFLUTTERINGcUPbEYES CLOSEDcHALF CLOSEDdOPEN",
   "cOPENcSQUEEZEDcWIDE OPENcWIDENING MOVEMENTbFACE DIRECTION POSITION NOSE FORWARD TILTING",
   "fUP OR DOWNiTILTINGbFILL MODIFIER-2cMODIFIER-3cMODIFIER-4cMODIFIER-5cMODIFIER-6bFINGER",
   "bFLICK LARGE MULTIPLEdSINGLEcSEQUENTIALcSMALL MULTIPLEdSINGLEbFLOORPLANE SHOULDER HIP MOVE",
   "bFOREHEAD CONTACTcNEUTRALcWRINKLEDbFULL STOPbGRASP BETWEENcMULTIPLEcSINGLEbHAIRbHAND-ANGLE",
   "cINDEXdMIDDLE LITTLEeRINGdRING LITTLEfOUTdTHUMBeINeOUTcLITTLE INDEXeTHUMB INDEX THUMBhOUTdUP",
   "cMIDDLE RING LITTLEfINfOUTcRING DOWN MIDDLE THUMB INDEX CROSSdLITTLEbHAND-CIRCLEcINDEXdBENT",
   "dHINGEdMIDDLEeCROSS LITTLEeCROSSEDeLITTLEeRINGeTHUMBdRING LITTLEcLITTLE INDEXdUP",
   "cMIDDLE RING LITTLEfBENTdUPcRING LITTLEbHAND-CLAWcFOUR FINGERS CONJOINED",
   "cINDEX THUMB CURVE THUMB INSIDEcMIDDLE RING LITTLE CONJOINEDgSIDEcNO THUMBcTHUMB FORWARDdSIDE",
   "bHAND-CUPcFIVE FINGERS SPREADfOPENcINDEXdRING LITTLEdTHUMBeOPENcMIDDLE RING LITTLEcNO THUMB",
   "cOPENdNO THUMBdTHUMB FORWARDeSIDEcTHUMB FORWARDdSIDEbHAND-CURLICUEcINDEX RING LITTLE ON",
   "cMIDDLE RING LITTLE ONcOPENbHAND-FISTcFOUR FINGERS CONJOINED BENTcHEELcINDEXdBENTeOVER MIDDLE",
   "dCUPPEDdHINGEDeLOWeMIDDLE UPgTHUMB SIDEdMIDDLEeBENTfTHUMB STRAIGHTeCONJOINEDfCUPPED",
   "gTHUMB FORWARDfHINGEDgTHUMB SIDEfINDEX BENTfMIDDLE BENTfTHUMB FORWARDgSIDEhBENThCONJOINED",
   "eCROSS LITTLEeCROSSEDfTHUMB SIDEeHINGEDfSPREAD THUMB SIDEeLITTLEeRAISED KNUCKLESeRINGfBENT",
   "fCONJOINEDeSTRAIGHT THUMB BENTeTHUMBfANGLEDgOUTfBENTfCIRCLEDfCONJOINED HINGEDfCUPPEDfHINGED",
   "fHOOKEDeUP SPREAD THUMB FORWARDdRAISED KNUCKLEdRING LITTLEdTHUMB ANGLED IN MIDDLE UP",
   "fOUT MIDDLE UPeCIRCLEeCIRCLED MIDDLE UPeCUPPED MIDDLE UPeCURLICUEeCURVE THUMB INSIDEgUNDER",
   "eFORWARD INDEX BENTgSTRAIGHTeHOOKeHOOKED MIDDLE HINGEDgUPeSIDEfBOTH BENTfINDEX BENTgHINGE",
   "fTHUMB BENTgCONJOINEDgDIAGONALdUP MIDDLE HINGEDgTHUMB CONJOINEDhSIDEcLITTLE BENTdDOWN",
   "eOTHERS CIRCLEDeRIPPLE CURVEDfSTRAIGHTdINDEXeTHUMBdRAISED KNUCKLEdTHUMBdTOUCHES THUMBdUP",
   "cMIDDLE BENT OVER INDEXdDOWNdLITTLEdRAISED KNUCKLEdRING LITTLEdTHUMB ANGLED INDEX UP",
   "fOUT INDEX CROSSEDhUPeCIRCLED INDEX HINGEDgUPeCUPPED INDEX UPeHOOKED INDEX UPeLITTLEdUP",
   "eTHUMB SIDEcRING DOWNdINDEXdLITTLEdMIDDLEeCONJOINEDeRAISED KNUCKLESdRAISED KNUCKLEdTHUMBdUP",
   "cTHUMBdBETWEEN INDEX MIDDLEgSTRAIGHTeMIDDLE RINGeRING LITTLEdFORWARDdHEEL",
   "dOVER FOUR RAISED KNUCKLESeTWO FINGERSdSIDE BENTeCONJOINEDeDIAGONALdUNDER FOUR FINGERS",
   "eINDEX BENTeLITTLE UPeTHREE FINGERSeTWO FINGERSbHAND-FLATcBETWEEN PALM FACINGS",
   "cFIVE FINGERS SPREADfBENTfFOUR BENTfHINGEDgNO THUMBgTHUMB SIDEfTHUMB FORWARDcFOUR FINGERSeBENT",
   "eCONJOINEDfSPLITeHINGEDcHEELdFIVE FINGERS SPREADgBENTgFOUR BENTdTHUMB SIDEcSPLIT CENTRE",
   "eTHUMB SIDEgBENTdINDEX THUMB SIDEdLITTLEcTHUMB BENTdFORWARDdSIDEbHAND-HINGE",
   "cFIVE FINGERS SPREAD OPENcFOUR FINGERS CONJOINEDcINDEXdHINGEDdMIDDLE LITTLEeRINGfCONJOINED",
   "dRING LITTLEdTHUMBeLARGEeOPENeSIDEeSMALLcLITTLEdINDEXeTHUMBdTHUMBcMIDDLEdRING LITTLEcNO THUMB",
   "cOPENdNO THUMBdTHUMB FORWARDeSIDEcRINGdDOWN INDEX THUMB HOOK MIDDLEcSMALL",
   "cTHUMB BETWEEN MIDDLE RINGdSIDEeTOUCHING INDEXbHAND-HOOKcCURLICUEcINDEX RING LITTLE INfOUT",
   "fUNDERcMIDDLE RING LITTLE CONJOINEDgINgOUTdTHUMBcRING THUMBbHAND-OVALcFIVE FINGERS SPREAD",
   "cINDEXcLITTLE UPcNO THUMBcRING LITTLEcTHUMB FORWARDdSIDEbHEADcMOVEMENT CIRCLE",
   "cMOVEMENT-FLOORPLANE CURVEdSTRAIGHTcMOVEMENT-WALLPLANE CURVEdSTRAIGHTdTILTcRIM",
   "bLIMB COMBINATIONcLENGTH-1cLENGTH-2cLENGTH-3cLENGTH-4cLENGTH-5cLENGTH-6cLENGTH-7",
   "bLIP LOWER OVER UPPERcUPPER OVER LOWERbLIPS PRESSED TOGETHERbLOCATION DEPTHcHEAD NECKcHEIGHT",
   "cLIMBS DIGITScTORSOcWIDTHbLOCATION-FLOORPLANE SPACEbLOCATION-WALLPLANE SPACE",
   "bMOUTH CLOSED CONTACTdFORWARDdNEUTRALcCORNERScFROWNdOPENdWRINKLEDcKISSdFORWARDdWRINKLED",
   "cOPEN CIRCLEdFORWARDdOVALeWRINKLEDeYAWNdRECTANGLEeWRINKLEDeYAWNdWRINKLEDcSMILEdOPENdWRINKLED",
   "cTENSEdFORWARDdSUCKEDcWRINKLES DOUBLEdSINGLEbMOVEMENT-DIAGONAL AWAY LARGEdLARGESTdMEDIUMdSMALL",
   "cBETWEEN AWAY LARGEeLARGESTeMEDIUMeSMALLdTOWARDS LARGEeLARGESTeMEDIUMeSMALLcTOWARDS LARGE",
   "dLARGESTdMEDIUMdSMALLbMOVEMENT-FLOORPLANE ARM CIRCLE HITTING WALL LARGE DOUBLEhSINGLE",
   "gMEDIUM DOUBLEhSINGLEgSMALL DOUBLEhSINGLEcBENDcBOX LARGEdMEDIUMdSMALLcCHECKcCORNER LARGE",
   "dMEDIUMdSMALLcCROSScCURVE COMBINEDdHITTING CEILING LARGEfSMALLeFLOOR LARGEfSMALLdLARGEdLARGEST",
   "dMEDIUMdSMALLcDOUBLE ALTERNATINGeWRIST FLEXdSTRAIGHTdWRIST FLEX",
   "cFINGER CIRCLES HITTING WALL DOUBLEgSINGLEdCONTACTcHUMP HITTING CEILING LARGE DOUBLEgTRIPLE",
   "fSMALL DOUBLEgTRIPLEeFLOOR LARGE DOUBLEfSMALL DOUBLEfTRIPLE LARGE TRIPLEgSMALL TRIPLEdSMALL",
   "cJAWcLOOP HITTING CEILING LARGE DOUBLEgSINGLEfSMALL DOUBLEgSINGLEeFLOOR LARGE DOUBLEgSINGLE",
   "fSMALL DOUBLEgSINGLEdSMALLcPEAKS LARGEdMEDIUMdSMALLcSHAKING PARALLELcSINGLE STRAIGHT LARGE",
   "eLARGESTeMEDIUMeSMALLdWRIST FLEXcTRIPLE ALTERNATING MOVEMENTeWRIST FLEXdSTRAIGHT MOVEMENT",
   "dWRIST FLEXcWAVE HITTING CEILING LARGEfSMALLeFLOOR LARGEfSMALLdLARGEdSMALLdSNAKE",
   "cWRIST CIRCLE HITTING WALL DOUBLEgSINGLEcZIGZAG LARGEdMEDIUMdSMALL",
   "bMOVEMENT-HINGE DOWN SEQUENTIALcSIDE TO SIDE SCISSORScUP DOWN ALTERNATING LARGEfSMALLeLARGE",
   "eSMALLdSEQUENTIALbMOVEMENT-WALLPLANE ARM CIRCLE MEDIUM DOUBLEfSINGLEeSMALL DOUBLEfSINGLE",
   "cBEND LARGEdMEDIUMdSMALLcBOX LARGEdMEDIUMdSMALLcCHECK LARGEdMEDIUMdSMALLcCORNER LARGEdMEDIUM",
   "dROTATIONdSMALLcCROSScCURVE HALF-CIRCLE LARGEeLARGESTeMEDIUMeSMALLdHITTING CHESTeFRONT WALL",
   "dQUARTER LARGEeLARGESTeMEDIUMeSMALLdTHEN STRAIGHTdTHREE-QUARTER CIRCLE MEDIUMfSMALL",
   "cCURVED CROSS MEDIUMeSMALLcDOUBLE ALTERNATINGeWRIST FLEXdSTRAIGHTdWRIST FLEX",
   "cFINGER CIRCLES DOUBLEeSINGLEdCONTACTcHUMP HITTING CHESTeFRONT WALLdLARGEdMEDIUMdSMALLcJAW",
   "cLOOP HITTING CHESTeFRONT WALLdLARGEdMEDIUMdSMALLeDOUBLEcPEAKS LARGEdMEDIUMdSMALLcSHAKING",
   "cSINGLE STRAIGHT LARGEeLARGESTeMEDIUMeSMALLdWRIST FLEXcTRIPLE ALTERNATINGeWRIST FLEX",
   "dSTRAIGHT MOVEMENTdWRIST FLEXcWAVE CURVE DOUBLE LARGEfMEDIUMfSMALLeTRIPLE LARGEfMEDIUMfSMALL",
   "dDIAGONAL PATH LARGEfMEDIUMfSMALLdHITTING CHESTeFRONT WALLcWRIST CIRCLE FRONT DOUBLEfSINGLE",
   "cZIGZAG LARGEdMEDIUMdSMALLbNECKbNOSE CONTACTcNEUTRALcWIGGLEScWRINKLESbPARENTHESIS",
   "bROTATION MODIFIER-10cMODIFIER-11cMODIFIER-12cMODIFIER-13cMODIFIER-14cMODIFIER-15cMODIFIER-16",
   "cMODIFIER-2cMODIFIER-3cMODIFIER-4cMODIFIER-5cMODIFIER-6cMODIFIER-7cMODIFIER-8cMODIFIER-9",
   "bROTATION-FLOORPLANE ALTERNATINGdHITTING CEILINGeFLOORcDOUBLEdHITTING CEILINGeFLOORcSINGLE",
   "dHITTING CEILINGeFLOORbROTATION-WALLPLANE ALTERNATEcALTERNATING HITTING CHESTeFRONT WALL",
   "cDOUBLEdHITTING CHESTeFRONT WALLcSINGLEdHITTING CHESTeFRONT WALLbRUB BETWEENcMULTIPLEcSINGLE",
   "bSEMICOLONbSHOULDER HIP POSITIONSdSPINEcTILTING FROM WAISTbSQUEEZE FLICK ALTERNATING",
   "cLARGE MULTIPLEdSINGLEcSEQUENTIALcSMALL MULTIPLEdSINGLEbSTRIKE BETWEENcMULTIPLEcSINGLE",
   "bSURFACE BETWEENcSYMBOLSbTEETHcBITE LIPScMOVEMENTcON LIPSeMOVEMENTdTONGUEeMOVEMENT",
   "bTENSE CHEEKS HIGHdLOWdMIDDLEbTONGUE CENTRE INSIDE MOUTHdSTICKING OUTcINSIDE MOUTH RELAXED",
   "cLICKING LIPScMOVES AGAINST CHEEKcSTICKING OUT FARcTIP BETWEEN LIPSdTOUCHING INSIDE MOUTH",
   "bTORSO-FLOORPLANE TWISTINGbTORSO-WALLPLANE CURVED BENDcSTRAIGHT STRETCHbTOUCH BETWEENcMULTIPLE",
   "cSINGLEbTRAVEL-FLOORPLANE ROTATION-FLOORPLANE ALTERNATINGdDOUBLEdSINGLE",
   "cROTATION-WALLPLANE ALTERNATINGdDOUBLEdSINGLEcSHAKINGbTRAVEL-WALLPLANE ARM SPIRAL DOUBLE",
   "eSINGLEeTRIPLEcROTATION-FLOORPLANE ALTERNATINGdDOUBLEdSINGLEcROTATION-WALLPLANE ALTERNATING",
   "dDOUBLEdSINGLEcSHAKINGbUPPER BODY TILTING FROM HIP JOINTSbWALLPLANE SHOULDER HIP MOVE",
   "aSILHOUETTE OF JAPANaSIMILAR ABOVE GREATER-THAN ABOVE EQUALS SIGNcLESS-THAN ABOVE EQUALS SIGN",
   "bMINUS SIMILARbOR GREATER-THANcLESS-THANaSINE WAVEaSINGLE CHARACTER INTRODUCER",
   "bGRAPHIC CHARACTER INTRODUCERbHIGH-REVERSED-9 QUOTATION MARK",
   "bLEFT-POINTING ANGLE QUOTATION MARKbLOW-9 QUOTATION MARKbRIGHT-POINTING ANGLE QUOTATION MARK",
   "bSHIFT THREEcTWOaSINGLE-SHIFT-2aSINGLE-SHIFT-3aSINHALA ARCHAIC DIGIT EIGHTdFIVEdFOURdNINEdONE",
   "dSEVENdSIXdTHREEdTWOcNUMBER EIGHTYdFIFTYdFORTYdNINETYdONE HUNDREDeTHOUSANDdSEVENTYdSIXTYdTEN",
   "dTHIRTYdTWENTYbLETTER AAYANNAcAEEYANNAcAEYANNAcAIYANNAcALPAPRAANA BAYANNAdCAYANNAdDAYANNA",
   "dDDAYANNAdGAYANNAdJAYANNAdKAYANNAdPAYANNAdTAYANNAdTTAYANNAcAMBA BAYANNAcAUYANNAcAYANNA",
   "cDANTAJA LAYANNAdNAYANNAdSAYANNAcEEYANNAcEYANNAcFAYANNAcHAYANNAcIIYANNAcILUUYANNAcILUYANNA",
   "cIRUUYANNAcIRUYANNAcIYANNAcKANTAJA NAASIKYAYAcMAHAAPRAANA BAYANNAdCAYANNAdDAYANNAdDDAYANNA",
   "dGAYANNAdJAYANNAdKAYANNAdPAYANNAdTAYANNAdTTAYANNAcMAYANNAcMUURDHAJA LAYANNAdNAYANNAdSAYANNA",
   "cOOYANNAcOYANNAcRAYANNAcSANYAKA DAYANNAdDDAYANNAdGAYANNAdJAYANNAcTAALUJA NAASIKYAYA",
   "dSANYOOGA NAAKSIKYAYAdSAYANNAcUUYANNAcUYANNAcVAYANNAcYAYANNAbLITH DIGIT EIGHTdFIVEdFOURdNINE",
   "dONEdSEVENdSIXdTHREEdTWOdZERObPUNCTUATION KUNDDALIYAbSIGN AL-LAKUNAcANUSVARAYAcCANDRABINDU",
   "cVISARGAYAbVOWEL SIGN AELA-PILLAdDIGA AEDA-PILLAeGAETTA-PILLAeGAYANUKITTAeIS-PILLAeKOMBUVA",
   "ePAA-PILLAdGAETTA-PILLAdGAYANUKITTAdKETTI AEDA-PILLAeIS-PILLAePAA-PILLAdKOMBU DEKAdKOMBUVA",
   "eHAA AELA-PILLAfDIGA AELA-PILLAfGAYANUKITTAaSIX PETALLED BLACK AND WHITE FLORETTE",
   "bPOINTED BLACK STARcPINWHEEL STARcSTAR WITH MIDDLE DOTaSIX-PER-EM SPACE",
   "aSIXTEEN POINTED ASTERISKaSKATEBOARDaSKI AND SKI BOOTaSKIERaSKULLbAND CROSSBONESaSKUNK",
   "aSLANTED EQUAL TO OR GREATER-THANfWITH DOT INSIDEeLESS-THANfWITH DOT INSIDE",
   "bNORTH ARROW WITH HOOKED HEADeHORIZONTAL TAILaSLAVONIC ASTERISKaSLEDaSLEEPING ACCOMMODATION",
   "bFACEbSYMBOLaSLEEPY FACEaSLEUTH OR SPYaSLICE OF PIZZAaSLIGHTLY FROWNING FACEbSMILING FACE",
   "aSLOPEaSLOPING LARGE ANDcORaSLOT MACHINEaSLOTHaSMALL AIRPLANEbAMPERSANDbASTERISKbBLUE DIAMOND",
   "bCOLONbCOMMAbCOMMERCIAL ATbCONTAINS AS MEMBERcWITH OVERBAR",
   "dVERTICAL BAR AT END OF HORIZONTAL STROKEbDOLLAR SIGNbELEMENT OFdWITH OVERBAR",
   "eVERTICAL BAR AT END OF HORIZONTAL STROKEbEM DASHbEQUALS SIGNbEXCLAMATION MARKbFULL STOP",
   "bGREATER-THAN SIGNbHYPHEN-MINUSbIDEOGRAPHIC COMMAbLEFT CURLY BRACKETcPARENTHESIS",
   "cTORTOISE SHELL BRACKETbLESS-THAN SIGNbNUMBER SIGNbORANGE DIAMONDbPERCENT SIGNbPLUS SIGN",
   "bQUESTION MARKbREVERSE SOLIDUSbRIGHT CURLY BRACKETcPARENTHESIScTORTOISE SHELL BRACKET",
   "bROMAN NUMERAL EIGHTdELEVENdFIFTYdFIVEeHUNDREDdFOURdNINEdONEeHUNDREDeTHOUSANDdSEVENdSIXdTEN",
   "dTHREEdTWELVEdTWObSEMICOLONbTILDEbTWO DOTS OVER ONE DOT PUNCTUATIONbVEE WITH UNDERBAR",
   "aSMALLER THANcOR EQUAL TOaSMASH PRODUCTaSMILEaSMILING CAT FACE WITH HEART-SHAPED EYES",
   "eOPEN MOUTHbFACE WITH HALOdHEART-SHAPED EYESdHORNSdOPEN MOUTHfAND COLD SWEATgSMILING EYES",
   "gTIGHTLY-CLOSED EYESdSMILING EYESfAND HAND COVERING MOUTHgTHREE HEARTSdSUNGLASSESdTEAR",
   "aSMIRKING FACEaSMOKING SYMBOLaSNAILaSNAKEaSNEEZING FACEaSNOW CAPPED MOUNTAINaSNOWBOARDER",
   "aSNOWFLAKEaSNOWMANbWITHOUT SNOWaSOaSOCCER BALLaSOCKSaSOFT HYPHENbICE CREAMbSHELL FLOPPY DISK",
   "aSOFTBALLaSOFTWARE-FUNCTION SYMBOLaSOGDIAN COMBINING CURVE ABOVEdBELOWcDOT ABOVEdBELOW",
   "cHOOK ABOVEdBELOWcLONG HOOK BELOWcRESH BELOWcSTROKE BELOWcTWO DOTS ABOVEeBELOW",
   "bINDEPENDENT SHINbLETTER ALEPHcAYINcBETHcFETHcGIMELcHEcHETHcKAPHcLAMEDHcLESHcMEMcNUNcPE",
   "cRESH-AYINcSADHEcSAMEKHcSHINcTAWcWAWcYODHcZAYINbNUMBER ONEdHUNDREDcTENcTWENTY",
   "bPUNCTUATION CIRCLE WITH DOTcHALF CIRCLE WITH DOTcTWO CIRCLES WITH DOTSdVERTICAL BARS",
   "fWITH DOTSaSOHaSOLID QUILT SQUARE ORNAMENTeIN BLACK SQUAREaSOLIDUSbWITH OVERBARaSOM SIGN",
   "aSOON WITH RIGHTWARDS ARROW ABOVEaSORA SOMPENG DIGIT EIGHTdFIVEdFOURdNINEdONEdSEVENdSIXdTHREE",
   "dTWOdZEROcLETTER AHdBAHdCAHdDAHdEEHdEHdGAHdHAHdIHdJAHdKAHdLAHdMAEdMAHdNAHdNGAHdNYAHdOHdPAHdRAH",
   "dSAHdTAHdUHdVAHdYAHaSOSaSOUND RECORDING COPYRIGHTaSOUTH EAST ARROWdAND SOUTH WEST ARROW",
   "dCROSSING NORTH EAST ARROWdTO CORNERdWITH HOOKcBLACK ARROWcDOUBLE ARROWcPOINTING BUDdLEAF",
   "dVINE LEAFcSANS-SERIF ARROWcTRIANGLE-HEADED ARROWeTO BARcWHITE ARROWbWEST ARROW",
   "dAND NORTH WEST ARROWdWITH HOOKcBLACK ARROWcDOUBLE ARROWcPOINTING BUDdLEAFdVINE LEAF",
   "cSANS-SERIF ARROWcTRIANGLE-HEADED ARROWeTO BARcWHITE ARROWaSOYOMBO CLUSTER-INITIAL LETTER LA",
   "dRAdSAdSHAbFINAL CONSONANT SIGN -AeBeDeGeKeLeMeNeNGeReSeSHbGEMINATION MARK",
   "bHEAD MARK WITH MOON AND SUNhAND FLAMEiTRIPLE FLAMEbLETTER -AcAcBAcBHAcCAcCHAcDAcDDAcDDHAcDHA",
   "cDZAcGAcGHAcHAcJAcJHAcKAcKHAcKSSAcLAcMAcNAcNGAcNNAcNYAcPAcPHAcRAcSAcSHAcSSAcTAcTHAcTSAcTSHA",
   "cTTAcTTHAcVAcYAcZAcZHAbMARK DOUBLE SHADcPLUTAcSHADcTSHEGbSIGN ANUSVARAcJIHVAMULIYAcUPADHMANIYA",
   "cVISARGAbSUBJOINERbTERMINAL MARK-1cMARK-2bVOWEL LENGTH MARKcSIGN AIdAUdEdIdOdOEdUdUEdVOCALIC L",
   "eRaSPaSPAaSPACEaSPAGHETTIaSPARKLEaSPARKLESaSPARKLING HEARTaSPEAK-NO-EVIL MONKEYaSPEAKER",
   "bWITH CANCELLATION STROKEcONE SOUND WAVEcTHREE SOUND WAVESaSPEAKING HEAD IN SILHOUETTE",
   "aSPEECH BALLOONaSPEEDBOATaSPESMILO SIGNaSPHERICAL ANGLEcOPENING LEFTdUPaSPIDERbWEB",
   "aSPIRAL CALENDAR PADbNOTE PADbSHELLaSPLASHING SWEAT SYMBOLaSPONGEaSPOOL OF THREADaSPOON",
   "aSPORTS MEDALaSPOUTING WHALEaSQUARE A OVER MbAARUbAMbANPEAbAPAATObARUHUAbAUbBAARERUbBARbBEETA",
   "bBIRUbBORUTObBQbBUSSYERUbC OVER KGbCALbCAPbCCbCDbCMcCUBEDcSQUAREDbCObCORPORATIONbCUPbDAbDAASU",
   "bDBbDESIbDJbDLbDMcCUBEDcSQUAREDbDORUbEEKAAbERA NAME HEISEIdMEIZIdREIWAdSYOUWAdTAISYOUbERG",
   "bESUKUUDObEVbFMbFOOTbFOUR CORNERSbGALbGANMAbGARONbGBbGHZbGIGAbGINIIbGIRUDAAbGPAbGURAMU",
   "bGURAMUTONbGYbHAbHAITUbHEKUTAARUbHERUTUbHGbHIRAGANA HOKAbHONbHOONbHOORUbHPbHPAbHUARADDObHUIITO",
   "bHURANbHZbIMAGE OFdOR EQUAL TOeNOT EQUAL TObINbININGUbINTIbIUbK OHMbKAbKAIRIbKARATTObKARORII",
   "bKBbKCALbKEESUbKGbKHZbKIRObKIROGURAMUbKIROMEETORUbKIROWATTObKKbKLbKMcCAPITALcCUBEDcSQUARED",
   "bKOOPObKORUNAbKPAbKTbKUROONEbKURUZEIRObKVbKWbKYURIIbLEFT OPEN BOX OPERATORbLMbLNbLOGbLOZENGE",
   "bLXbM CUBEDcOHMcOVER SeSQUAREDcSQUAREDbMAbMAHHAbMAIKURObMAIRUbMANSYONbMARUKUbMBcSMALLbMEETORU",
   "bMEGAbMEGATONbMGbMHZbMIKURONbMILbMIRIbMIRIBAARUbMLbMMcCUBEDcSQUAREDbMOLbMPAbMSbMU AcFcGcLcMcS",
   "cVcWbMVcMEGAbMWcMEGAbNAbNANObNFbNMbNOTTObNSbNVbNWbONSUbOOMUbORIGINAL OFdOR EQUAL TO",
   "eNOT EQUAL TObOVbPAcAMPSbPAASENTObPAATUbPCbPEEZIbPENIHIbPENSUbPESObPFbPHbPIASUTORUbPIKObPIKURU",
   "bPMbPOINTObPONDObPOSITION INDICATORbPPMbPRbPSbPVbPWbRADcOVER SeSQUAREDbREMUbRENTOGEN",
   "bRIGHT OPEN BOX OPERATORbRIRAbRITTORUbROOTbRUPIIbRUUBURUbSAIKURUbSANTIIMUbSENTIbSENTObSIRINGU",
   "bSRbSVbTARGETbTHZbTONbUONbV OVER MbWATTObWBbWITH BOTTOM HALF BLACKcCONTOURED OUTLINE",
   "cDIAGONAL CROSSHATCH FILLcHORIZONTAL FILLcLEFT HALF BLACKcLOWER LEFT DIAGONAL HALF BLACK",
   "dRIGHT DIAGONAL HALF BLACKcORTHOGONAL CROSSHATCH FILLcRIGHT HALF BLACKcTOP HALF BLACK",
   "cUPPER LEFT DIAGONAL HALF BLACKeTO LOWER RIGHT FILLdRIGHT DIAGONAL HALF BLACK",
   "eTO LOWER LEFT FILLcVERTICAL FILLbYAADObYAARUbYUANaSQUARED ASTERISKbCJK UNIFIED IDEOGRAPH-4E00",
   "dIDEOGRAPH-4E09dIDEOGRAPH-4E2DdIDEOGRAPH-4E8CdIDEOGRAPH-4EA4dIDEOGRAPH-518DdIDEOGRAPH-521D",
   "dIDEOGRAPH-524DdIDEOGRAPH-5272dIDEOGRAPH-53CCdIDEOGRAPH-53F3dIDEOGRAPH-5408dIDEOGRAPH-5439",
   "dIDEOGRAPH-55B6dIDEOGRAPH-58F0dIDEOGRAPH-591AdIDEOGRAPH-5929dIDEOGRAPH-5B57dIDEOGRAPH-5DE6",
   "dIDEOGRAPH-5F8CdIDEOGRAPH-624BdIDEOGRAPH-6253dIDEOGRAPH-6295dIDEOGRAPH-6307dIDEOGRAPH-6355",
   "dIDEOGRAPH-6599dIDEOGRAPH-65B0dIDEOGRAPH-6620dIDEOGRAPH-6708dIDEOGRAPH-6709dIDEOGRAPH-6E80",
   "dIDEOGRAPH-6F14dIDEOGRAPH-7121dIDEOGRAPH-751FdIDEOGRAPH-7533dIDEOGRAPH-7981dIDEOGRAPH-7A7A",
   "dIDEOGRAPH-7D42dIDEOGRAPH-89E3dIDEOGRAPH-8CA9dIDEOGRAPH-8D70dIDEOGRAPH-904AdIDEOGRAPH-914DbCL",
   "bCOOLbDOT OPERATORbEIGHT KbFALLING DIAGONAL SLASHbFIVE POINT ONEbFOUR DOT PUNCTUATIONcKbFREE",
   "bHCbHDRbHI-RESbHVbIDbKATAKANA DEcKOKOcSAbKEYbLATIN CAPITAL LETTER AeBeCeDeEeFeGeHeIeJeKeLeMeN",
   "eOePeQeReSeTeUeVeWeXeYeZcSMALL LETTER DbLOGICAL ANDcORbLOSSLESSbMINUSbMVbNEWbNGbOK",
   "bONE HUNDRED TWENTY PbPLUSbPPVbRISING DIAGONAL SLASHbSALTIREbSDbSECOND SCREENbSEVEN POINT ONE",
   "bSHVbSIXTY PbSMALL CIRCLEbSOSbSQUAREbSSbTHREE DbTIMESbTWENTY-TWO POINT TWObTWO KbUHD",
   "bUP WITH EXCLAMATION MARKbVODbVSbWCaSQUAT BLACK RIGHTWARDS ARROWaSQUIDaSS2aSS3aSSAaSTaSTADIUM",
   "aSTAFF OF AESCULAPIUScHERMESaSTAMPED ENVELOPEaSTANDING PERSONaSTAR AND CRESCENTbEQUALS",
   "bOF DAVIDbOPERATORbWITH LEFT HALF BLACKcRIGHT HALF BLACKaSTART OF GUARDED AREAcHEADING",
   "cPROTECTED AREAcSELECTED AREAcSTRINGcTEXTaSTATIONaSTATUE OF LIBERTYaSTEAM LOCOMOTIVE",
   "aSTEAMING BOWLaSTENOGRAPHIC FULL STOPaSTETHOSCOPEaSTICK FIGUREcLEANING LEFTdRIGHT",
   "cWITH ARMS RAISEDdDRESSaSTOCK CHARTaSTOPWATCHaSTRAIGHT RULERaSTRAIGHTNESSaSTRAWBERRY",
   "aSTRESS OUTLINED WHITE STARaSTRICTLY EQUIVALENT TOaSTRING TERMINATORaSTSaSTUDIO MICROPHONE",
   "aSTUFFED FLATBREADaSTUPAaSTXaSUBaSUBSCRIPT EIGHTbEQUALS SIGNbFIVEbFOURbLEFT PARENTHESISbMINUS",
   "bNINEbONEbPLUS SIGNbRIGHT PARENTHESISbSEVENbSIXbTHREEbTWObZEROaSUBSET ABOVE RIGHTWARDS ARROW",
   "cSUBSETcSUPERSETbOFcABOVE ALMOST EQUAL TOdEQUALS SIGNdNOT EQUAL TOdTILDE OPERATORcOR EQUAL TO",
   "fWITH DOT ABOVEcWITH NOT EQUAL TObWITH DOTcMULTIPLICATION SIGN BELOWcPLUS SIGN BELOW",
   "aSUBSTITUTEaSUCCEEDSbABOVE ALMOST EQUAL TOcEQUALS SIGNcNOT ALMOST EQUAL TOdEQUAL TO",
   "cSINGLE-LINE EQUALS SIGNdNOT EQUAL TObBUT NOT EQUIVALENT TObOR EQUAL TOcEQUIVALENT TO",
   "bUNDER RELATIONaSUMMATION BOTTOMbTOPbWITH INTEGRALaSUNbBEHIND CLOUDbWITH FACE",
   "aSUNDANESE AVAGRAHAbCONSONANT SIGN PAMINGKALdPANYAKRAdPANYIKUdPASANGAN MAeWAbDIGIT EIGHTcFIVE",
   "cFOURcNINEcONEcSEVENcSIXcTHREEcTWOcZERObLETTER AcAEcBAcBHAcCAcDAcEcEUcFAcFINAL KdMcGAcHAcIcJA",
   "cKAcKHAcLAcLEUcMAcNAcNGAcNYAcOcPAcQAcRAcREUcSAcSYAcTAcUcVAcWAcXAcYAcZA",
   "bPUNCTUATION BINDU BA SATANGAdCAKRAdDA SATANGAdKA SATANGAdLEU SATANGAdPANGLONGdPURNAMAdSURYA",
   "bSIGN PAMAAEHcPANGLAYARcPANGWISADcPANYECEKcVIRAMAbVOWEL SIGN PAMEPETdPANAELAENGdPANEULEUNG",
   "dPANGHULUdPANOLONGdPANYUKUaSUNFLOWERaSUNRISEbOVER MOUNTAINSaSUNSET OVER BUILDINGSaSUPERHERO",
   "aSUPERSCRIPT EIGHTbEQUALS SIGNbFIVEbFOURbLATIN SMALL LETTER IeNbLEFT PARENTHESISbMINUSbNINE",
   "bONEbPLUS SIGNbRIGHT PARENTHESISbSEVENbSIXbTHREEbTWObZEROaSUPERSET ABOVE LEFTWARDS ARROW",
   "cSUBSETcSUPERSETbBESIDE AND JOINED BY DASH WITH SUBSETcSUBSETbOFcABOVE ALMOST EQUAL TO",
   "dEQUALS SIGNdNOT EQUAL TOdTILDE OPERATORcOR EQUAL TOfWITH DOT ABOVEcWITH NOT EQUAL TO",
   "bPRECEDING SOLIDUSbWITH DOTcMULTIPLICATION SIGN BELOWcPLUS SIGN BELOWaSUPERVILLAIN",
   "aSURFACE INTEGRALaSURFERaSUSHIaSUSPENSION RAILWAYaSWANaSWASH AMPERSAND ORNAMENTaSWIMMER",
   "aSWUNG DASHaSYLOTI NAGRI LETTER AdBHOdBOdCHOdCOdDDHOdDDOdDHOdDOdEdGHOdGOdHOdIdJHOdJOdKHOdKOdLO",
   "dMOdNOdOdPHOdPOdROdRROdSOdTHOdTOdTTHOdTTOdUcPOETRY MARK-1dMARK-2dMARK-3dMARK-4",
   "cSIGN ALTERNATE HASANTAdANUSVARAdDVISVARAdHASANTAcVOWEL SIGN AeEeIeOOeUaSYMBOL FOR ACKNOWLEDGE",
   "cBACKSPACEcBELLcCANCELcCARRIAGE RETURNcDATA LINK ESCAPEcDELETEdFORM TWOcDEVICE CONTROL FOUR",
   "eONEeTHREEeTWOcEND OF MEDIUMeTEXTeTRANSMISSIONfBLOCKcENQUIRYcESCAPEcFILE SEPARATORcFORM FEED",
   "cGROUP SEPARATORcHORIZONTAL TABULATIONcLINE FEEDcMARKS CHAPTERcNEGATIVE ACKNOWLEDGEcNEWLINE",
   "cNULLcRECORD SEPARATORcSAMARITAN SOURCEcSHIFT INdOUTcSPACEcSTART OF HEADINGeTEXTcSUBSTITUTE",
   "dFORM TWOcSYNCHRONOUS IDLEcTYPE A ELECTRONICScUNIT SEPARATORcVERTICAL TABULATIONaSYMMETRYaSYN",
   "aSYNAGOGUEaSYNCHRONOUS IDLEaSYRIAC ABBREVIATION MARKbBARREKHbCOLON SKEWED LEFTdRIGHT",
   "bCONTRACTIONbDOTTED ZLAMA ANGULARdHORIZONTALbEND OF PARAGRAPHbESASA ABOVEcBELOWbFEMININE DOT",
   "bHARKLEAN ASTERISCUScMETOBELUScOBELUSbHBASA ABOVEcBELOWbHBASA-ESASA DOTTEDbHORIZONTAL COLON",
   "bLETTER ALAPHcBETHcDALATHcDOTLESS DALATH RISHcEcFINAL SEMKATHcGAMALdGARSHUNIcHEcHETHcKAPH",
   "cLAMADHcMALAYALAM BHAdJAdLLAdLLLAdNGAdNNAdNNNAdNYAdRAdSSAdTTAcMIMcNUNcPEcPERSIAN BHETHdDHALATH",
   "dGHAMALcQAPHcREVERSED PEcRISHcSADHEcSEMKATHcSHINcSOGDIAN FEdKHAPHdZHAINcSUPERSCRIPT ALAPHcTAW",
   "cTETHdGARSHUNIcWAWcYUDHdHEcZAINbMUSICbOBLIQUE LINE ABOVEdBELOWbPTHAHA ABOVEcBELOWcDOTTED",
   "bQUSHSHAYAbRBASA ABOVEcBELOWbRUKKAKHAbRWAHAbSUBLINEAR COLONdSKEWED LEFTeRIGHTcFULL STOP",
   "bSUPRALINEAR COLONdSKEWED LEFTcFULL STOPbTHREE DOTS ABOVEdBELOWbTWO VERTICAL DOTS ABOVEeBELOW",
   "bZQAPHA ABOVEcBELOWcDOTTEDaSYRINGEaT-REXaT-SHIRTaTABaTABLE TENNIS PADDLE AND BALLaTACO",
   "aTAG AMPERSANDbAPOSTROPHEbASTERISKbCIRCUMFLEX ACCENTbCOLONbCOMMAbCOMMERCIAL ATbDIGIT EIGHT",
   "cFIVEcFOURcNINEcONEcSEVENcSIXcTHREEcTWOcZERObDOLLAR SIGNbEQUALS SIGNbEXCLAMATION MARK",
   "bFULL STOPbGRAVE ACCENTbGREATER-THAN SIGNbHYPHEN-MINUSbLATIN CAPITAL LETTER AeBeCeDeEeFeGeHeI",
   "eJeKeLeMeNeOePeQeReSeTeUeVeWeXeYeZcSMALL LETTER AeBeCeDeEeFeGeHeIeJeKeLeMeNeOePeQeReSeTeUeVeW",
   "eXeYeZbLEFT CURLY BRACKETcPARENTHESIScSQUARE BRACKETbLESS-THAN SIGNbLOW LINEbNUMBER SIGN",
   "bPERCENT SIGNbPLUS SIGNbQUESTION MARKbQUOTATION MARKbREVERSE SOLIDUSbRIGHT CURLY BRACKET",
   "cPARENTHESIScSQUARE BRACKETbSEMICOLONbSOLIDUSbSPACEbTILDEbVERTICAL LINEaTAGALOG LETTER A",
   "cARCHAIC RAcBAcDAcGAcHAcIcKAcLAcMAcNAcNGAcPAcRAcSAcTAcUcWAcYAbSIGN PAMUDPODcVIRAMA",
   "bVOWEL SIGN IdUaTAGBANWA LETTER AcBAcDAcGAcIcKAcLAcMAcNAcNGAcPAcSAcTAcUcWAcYAbVOWEL SIGN IdU",
   "aTAI LE LETTER AdAIdAUEdEdEEdEHdFAdHAdIdKAdKHAdLAdMAdNAdNGAdOdOOdPAdPHAdQAdSAdTAdTHAdTONE-2",
   "dTONE-3dTONE-4dTONE-5dTONE-6dTSAdTSHAdUdUEdVAdXAdYAbTHAM COMBINING CRYPTOGRAMMIC DOT",
   "cCONSONANT SIGN BAeFINAL NGAeHIGH RATHA OR LOW PAeLA TANG LAIeLOW PAeMAeMEDIAL LAfRAeSA",
   "cHORA DIGIT EIGHTeFIVEeFOUReNINEeONEeSEVENeSIXeTHREEeTWOeZEROcLETTER AdBAdDAdEEdGREAT SA",
   "dHIGH CAeCHAeFAeHAeKAeKHAeKXAePAePHAeRATHAeSAeSHAeSSAeTAeTHAeYAdIdIIdLAdLAEdLLAdLOW CAeCHAeFA",
   "eHAeKAeKHAeKXAePAePHAeRATHAeSAeTAeTHAeYAdLUEdMAdNAdNGAdNYAdOOdRAdRANAdRATAdRUEdUdUUdWA",
   "cSIGN CAANGdDOKMAIdHANGdHOYdKAANdKAANKUUdKEOWdKHUEN TONE-3eTONE-4eTONE-5dKHUEN-LUE KARAN",
   "dMAI KANGfLAIeSAMeYAMOKdRA HAAMdREVERSED ROTATED RANAdSAKOTdSATKAANdSATKAANKUUdSAWANdTONE-1",
   "dTONE-2dWIANGdWIANGWAAKcTHAM DIGIT EIGHTeFIVEeFOUReNINEeONEeSEVENeSIXeTHREEeTWOeZERO",
   "cVOWEL SIGN AeAAeAEeAIeEeIeIIeMAI SATeOeOA ABOVEfBELOWeOOeOYeTALL AAeTHAM AIeUeUEeUUeUUE",
   "bVIET LETTER HIGH BOeCHOeCOeDOeFOeGOeHOeKHHOeKHOeKOeLOeMOeNGOeNOeNYOeOePHOePOeROeSOeTHOeTOeVO",
   "eYOdLOW BOeCHOeCOeDOeFOeGOeHOeKHHOeKHOeKOeLOeMOeNGOeNOeNYOeOePHOePOeROeSOeTHOeTOeVOeYO",
   "cMAI KANGdKHITcSYMBOL HO HOIdKOI KOIdKONdNUENGdSAMcTONE MAI EKeNUENGeSONGeTHOcVOWEL AAdAMdAN",
   "dAUEdAYdEdIdIAdOdUdUAdUEdUEAaTAKEOUT BOXaTAKRI ABBREVIATION SIGNbDIGIT EIGHTcFIVEcFOURcNINE",
   "cONEcSEVENcSIXcTHREEcTWOcZERObLETTER AcAAcAIcARCHAIC KHAcAUcBAcBHAcCAcCHAcDAcDDAcDDHAcDHAcEcGA",
   "cGHAcHAcIcIIcJAcJHAcKAcKHAcLAcMAcNAcNGAcNNAcNYAcOcPAcPHAcRAcRRAcSAcSHAcTAcTHAcTTAcTTHAcUcUUcVA",
   "cYAbSIGN ANUSVARAcNUKTAcVIRAMAcVISARGAbVOWEL SIGN AAdAIdAUdEdIdIIdOdUdUUaTALLY MARK FIVEcONE",
   "aTAMALEaTAMIL AND ODD SIGNbAS ABOVE SIGNbAU LENGTH MARKbCREDIT SIGNbCURRENT SIGNbDAY SIGN",
   "bDEBIT SIGNbDIGIT EIGHTcFIVEcFOURcNINEcONEcSEVENcSIXcTHREEcTWOcZERObDRY CULTIVATION SIGN",
   "bFRACTION DOWNSCALING FACTOR KIIZHcONE EIGHTHdEIGHTIETHdFIFTHdFORTIETHdHALF-1dHALF-2",
   "dONE-HUNDRED-AND-SIXTIETHdQUARTERdSIXTEENTH-1dSIXTEENTH-2dSIXTY-FOURTHdTENTHdTHIRTY-SECOND",
   "dTHREE-HUNDRED-AND-TWENTIETHdTWENTIETHcTHREE EIGHTIETHSdQUARTERSdSIXTEENTHSdSIXTY-FOURTHS",
   "dTWENTIETHSbIN POSSESSION SIGNbLAND SIGNbLETTER AcAAcAIcAUcCAcEcEEcHAcIcIIcJAcKAcLAcLLAcLLLA",
   "cMAcNAcNGAcNNAcNNNAcNYAcOcOOcPAcRAcRRAcSAcSHAcSSAcTAcTTAcUcUUcVAcYAbMONTH SIGN",
   "bNUMBER ONE HUNDREDdTHOUSANDcSIGNcTENbOMbPUNCTUATION END OF TEXTbRUPEE SIGNbSALT PAN SIGN",
   "bSIGN AAZHAAKKUcANUSVARAcCEVITUcKAACUcKURUNIcKUZHIcMUKKURUNIcMUTHALIYAcMUUVUZHAKKUcNELcPAARAM",
   "cPANAMcPATHAKKUcPONcUZHAKKUcVAKAIYARAAcVARAAKANcVELIcVIRAMAcVISARGAbSPENT SIGN",
   "bSTARTING FROM SIGNbTOTAL SIGNbTRADITIONAL CREDIT SIGNcNUMBER SIGNbVOWEL SIGN AAdAIdAUdEdEEdI",
   "dIIdOdOOdUdUUbWET CULTIVATION SIGNbYEAR SIGNaTANABATA TREEaTANGERINEaTANGSA DIGIT EIGHTcFIVE",
   "cFOURcNINEcONEcSEVENcSIXcTHREEcTWOcZERObLETTER ACcAQcAWCcAWQcAWXcAWZcAXcAZcBAcCAcCHAcDAcDHAcEC",
   "cEQcEXcEZcFAcFINAL NGcGAcGHAcHAcHTAcHTTAcICcIQcIXcIZcKAcKHAcLAcLONG UEXcMAcMCcMQcMXcMZcNAcNGA",
   "cNHAcNYAcOCcOQcOXcOZcPAcPHAcRAcSAcSHAcSHORT AWXdUEZcTAcTHAcTSAcUCcUECcUEQcUEXcUEZcUICcUIQcUIUC",
   "cUIUQcUIUXcUIUZcUIXcUIZcUQcUXcUZcVCcVQcVXcVZcWAcXAcYAcZAaTANGUT COMPONENT-001bCOMPONENT-002",
   "bCOMPONENT-003bCOMPONENT-004bCOMPONENT-005bCOMPONENT-006bCOMPONENT-007bCOMPONENT-008",
   "bCOMPONENT-009bCOMPONENT-010bCOMPONENT-011bCOMPONENT-012bCOMPONENT-013bCOMPONENT-014",
   "bCOMPONENT-015bCOMPONENT-016bCOMPONENT-017bCOMPONENT-018bCOMPONENT-019bCOMPONENT-020",
   "bCOMPONENT-021bCOMPONENT-022bCOMPONENT-023bCOMPONENT-024bCOMPONENT-025bCOMPONENT-026",
   "bCOMPONENT-027bCOMPONENT-028bCOMPONENT-029bCOMPONENT-030bCOMPONENT-031bCOMPONENT-032",
   "bCOMPONENT-033bCOMPONENT-034bCOMPONENT-035bCOMPONENT-036bCOMPONENT-037bCOMPONENT-038",
   "bCOMPONENT-039bCOMPONENT-040bCOMPONENT-041bCOMPONENT-042bCOMPONENT-043bCOMPONENT-044",
   "bCOMPONENT-045bCOMPONENT-046bCOMPONENT-047bCOMPONENT-048bCOMPONENT-049bCOMPONENT-050",
   "bCOMPONENT-051bCOMPONENT-052bCOMPONENT-053bCOMPONENT-054bCOMPONENT-055bCOMPONENT-056",
   "bCOMPONENT-057bCOMPONENT-058bCOMPONENT-059bCOMPONENT-060bCOMPONENT-061bCOMPONENT-062",
   "bCOMPONENT-063bCOMPONENT-064bCOMPONENT-065bCOMPONENT-066bCOMPONENT-067bCOMPONENT-068",
   "bCOMPONENT-069bCOMPONENT-070bCOMPONENT-071bCOMPONENT-072bCOMPONENT-073bCOMPONENT-074",
   "bCOMPONENT-075bCOMPONENT-076bCOMPONENT-077bCOMPONENT-078bCOMPONENT-079bCOMPONENT-080",
   "bCOMPONENT-081bCOMPONENT-082bCOMPONENT-083bCOMPONENT-084bCOMPONENT-085bCOMPONENT-086",
   "bCOMPONENT-087bCOMPONENT-088bCOMPONENT-089bCOMPONENT-090bCOMPONENT-091bCOMPONENT-092",
   "bCOMPONENT-093bCOMPONENT-094bCOMPONENT-095bCOMPONENT-096bCOMPONENT-097bCOMPONENT-098",
   "bCOMPONENT-099bCOMPONENT-100bCOMPONENT-101bCOMPONENT-102bCOMPONENT-103bCOMPONENT-104",
   "bCOMPONENT-105bCOMPONENT-106bCOMPONENT-107bCOMPONENT-108bCOMPONENT-109bCOMPONENT-110",
   "bCOMPONENT-111bCOMPONENT-112bCOMPONENT-113bCOMPONENT-114bCOMPONENT-115bCOMPONENT-116",
   "bCOMPONENT-117bCOMPONENT-118bCOMPONENT-119bCOMPONENT-120bCOMPONENT-121bCOMPONENT-122",
   "bCOMPONENT-123bCOMPONENT-124bCOMPONENT-125bCOMPONENT-126bCOMPONENT-127bCOMPONENT-128",
   "bCOMPONENT-129bCOMPONENT-130bCOMPONENT-131bCOMPONENT-132bCOMPONENT-133bCOMPONENT-134",
   "bCOMPONENT-135bCOMPONENT-136bCOMPONENT-137bCOMPONENT-138bCOMPONENT-139bCOMPONENT-140",
   "bCOMPONENT-141bCOMPONENT-142bCOMPONENT-143bCOMPONENT-144bCOMPONENT-145bCOMPONENT-146",
   "bCOMPONENT-147bCOMPONENT-148bCOMPONENT-149bCOMPONENT-150bCOMPONENT-151bCOMPONENT-152",
   "bCOMPONENT-153bCOMPONENT-154bCOMPONENT-155bCOMPONENT-156bCOMPONENT-157bCOMPONENT-158",
   "bCOMPONENT-159bCOMPONENT-160bCOMPONENT-161bCOMPONENT-162bCOMPONENT-163bCOMPONENT-164",
   "bCOMPONENT-165bCOMPONENT-166bCOMPONENT-167bCOMPONENT-168bCOMPONENT-169bCOMPONENT-170",
   "bCOMPONENT-171bCOMPONENT-172bCOMPONENT-173bCOMPONENT-174bCOMPONENT-175bCOMPONENT-176",
   "bCOMPONENT-177bCOMPONENT-178bCOMPONENT-179bCOMPONENT-180bCOMPONENT-181bCOMPONENT-182",
   "bCOMPONENT-183bCOMPONENT-184bCOMPONENT-185bCOMPONENT-186bCOMPONENT-187bCOMPONENT-188",
   "bCOMPONENT-189bCOMPONENT-190bCOMPONENT-191bCOMPONENT-192bCOMPONENT-193bCOMPONENT-194",
   "bCOMPONENT-195bCOMPONENT-196bCOMPONENT-197bCOMPONENT-198bCOMPONENT-199bCOMPONENT-200",
   "bCOMPONENT-201bCOMPONENT-202bCOMPONENT-203bCOMPONENT-204bCOMPONENT-205bCOMPONENT-206",
   "bCOMPONENT-207bCOMPONENT-208bCOMPONENT-209bCOMPONENT-210bCOMPONENT-211bCOMPONENT-212",
   "bCOMPONENT-213bCOMPONENT-214bCOMPONENT-215bCOMPONENT-216bCOMPONENT-217bCOMPONENT-218",
   "bCOMPONENT-219bCOMPONENT-220bCOMPONENT-221bCOMPONENT-222bCOMPONENT-223bCOMPONENT-224",
   "bCOMPONENT-225bCOMPONENT-226bCOMPONENT-227bCOMPONENT-228bCOMPONENT-229bCOMPONENT-230",
   "bCOMPONENT-231bCOMPONENT-232bCOMPONENT-233bCOMPONENT-234bCOMPONENT-235bCOMPONENT-236",
   "bCOMPONENT-237bCOMPONENT-238bCOMPONENT-239bCOMPONENT-240bCOMPONENT-241bCOMPONENT-242",
   "bCOMPONENT-243bCOMPONENT-244bCOMPONENT-245bCOMPONENT-246bCOMPONENT-247bCOMPONENT-248",
   "bCOMPONENT-249bCOMPONENT-250bCOMPONENT-251bCOMPONENT-252bCOMPONENT-253bCOMPONENT-254",
   "bCOMPONENT-255bCOMPONENT-256bCOMPONENT-257bCOMPONENT-258bCOMPONENT-259bCOMPONENT-260",
   "bCOMPONENT-261bCOMPONENT-262bCOMPONENT-263bCOMPONENT-264bCOMPONENT-265bCOMPONENT-266",
   "bCOMPONENT-267bCOMPONENT-268bCOMPONENT-269bCOMPONENT-270bCOMPONENT-271bCOMPONENT-272",
   "bCOMPONENT-273bCOMPONENT-274bCOMPONENT-275bCOMPONENT-276bCOMPONENT-277bCOMPONENT-278",
   "bCOMPONENT-279bCOMPONENT-280bCOMPONENT-281bCOMPONENT-282bCOMPONENT-283bCOMPONENT-284",
   "bCOMPONENT-285bCOMPONENT-286bCOMPONENT-287bCOMPONENT-288bCOMPONENT-289bCOMPONENT-290",
   "bCOMPONENT-291bCOMPONENT-292bCOMPONENT-293bCOMPONENT-294bCOMPONENT-295bCOMPONENT-296",
   "bCOMPONENT-297bCOMPONENT-298bCOMPONENT-299bCOMPONENT-300bCOMPONENT-301bCOMPONENT-302",
   "bCOMPONENT-303bCOMPONENT-304bCOMPONENT-305bCOMPONENT-306bCOMPONENT-307bCOMPONENT-308",
   "bCOMPONENT-309bCOMPONENT-310bCOMPONENT-311bCOMPONENT-312bCOMPONENT-313bCOMPONENT-314",
   "bCOMPONENT-315bCOMPONENT-316bCOMPONENT-317bCOMPONENT-318bCOMPONENT-319bCOMPONENT-320",
   "bCOMPONENT-321bCOMPONENT-322bCOMPONENT-323bCOMPONENT-324bCOMPONENT-325bCOMPONENT-326",
   "bCOMPONENT-327bCOMPONENT-328bCOMPONENT-329bCOMPONENT-330bCOMPONENT-331bCOMPONENT-332",
   "bCOMPONENT-333bCOMPONENT-334bCOMPONENT-335bCOMPONENT-336bCOMPONENT-337bCOMPONENT-338",
   "bCOMPONENT-339bCOMPONENT-340bCOMPONENT-341bCOMPONENT-342bCOMPONENT-343bCOMPONENT-344",
   "bCOMPONENT-345bCOMPONENT-346bCOMPONENT-347bCOMPONENT-348bCOMPONENT-349bCOMPONENT-350",
   "bCOMPONENT-351bCOMPONENT-352bCOMPONENT-353bCOMPONENT-354bCOMPONENT-355bCOMPONENT-356",
   "bCOMPONENT-357bCOMPONENT-358bCOMPONENT-359bCOMPONENT-360bCOMPONENT-361bCOMPONENT-362",
   "bCOMPONENT-363bCOMPONENT-364bCOMPONENT-365bCOMPONENT-366bCOMPONENT-367bCOMPONENT-368",
   "bCOMPONENT-369bCOMPONENT-370bCOMPONENT-371bCOMPONENT-372bCOMPONENT-373bCOMPONENT-374",
   "bCOMPONENT-375bCOMPONENT-376bCOMPONENT-377bCOMPONENT-378bCOMPONENT-379bCOMPONENT-380",
   "bCOMPONENT-381bCOMPONENT-382bCOMPONENT-383bCOMPONENT-384bCOMPONENT-385bCOMPONENT-386",
   "bCOMPONENT-387bCOMPONENT-388bCOMPONENT-389bCOMPONENT-390bCOMPONENT-391bCOMPONENT-392",
   "bCOMPONENT-393bCOMPONENT-394bCOMPONENT-395bCOMPONENT-396bCOMPONENT-397bCOMPONENT-398",
   "bCOMPONENT-399bCOMPONENT-400bCOMPONENT-401bCOMPONENT-402bCOMPONENT-403bCOMPONENT-404",
   "bCOMPONENT-405bCOMPONENT-406bCOMPONENT-407bCOMPONENT-408bCOMPONENT-409bCOMPONENT-410",
   "bCOMPONENT-411bCOMPONENT-412bCOMPONENT-413bCOMPONENT-414bCOMPONENT-415bCOMPONENT-416",
   "bCOMPONENT-417bCOMPONENT-418bCOMPONENT-419bCOMPONENT-420bCOMPONENT-421bCOMPONENT-422",
   "bCOMPONENT-423bCOMPONENT-424bCOMPONENT-425bCOMPONENT-426bCOMPONENT-427bCOMPONENT-428",
   "bCOMPONENT-429bCOMPONENT-430bCOMPONENT-431bCOMPONENT-432bCOMPONENT-433bCOMPONENT-434",
   "bCOMPONENT-435bCOMPONENT-436bCOMPONENT-437bCOMPONENT-438bCOMPONENT-439bCOMPONENT-440",
   "bCOMPONENT-441bCOMPONENT-442bCOMPONENT-443bCOMPONENT-444bCOMPONENT-445bCOMPONENT-446",
   "bCOMPONENT-447bCOMPONENT-448bCOMPONENT-449bCOMPONENT-450bCOMPONENT-451bCOMPONENT-452",
   "bCOMPONENT-453bCOMPONENT-454bCOMPONENT-455bCOMPONENT-456bCOMPONENT-457bCOMPONENT-458",
   "bCOMPONENT-459bCOMPONENT-460bCOMPONENT-461bCOMPONENT-462bCOMPONENT-463bCOMPONENT-464",
   "bCOMPONENT-465bCOMPONENT-466bCOMPONENT-467bCOMPONENT-468bCOMPONENT-469bCOMPONENT-470",
   "bCOMPONENT-471bCOMPONENT-472bCOMPONENT-473bCOMPONENT-474bCOMPONENT-475bCOMPONENT-476",
   "bCOMPONENT-477bCOMPONENT-478bCOMPONENT-479bCOMPONENT-480bCOMPONENT-481bCOMPONENT-482",
   "bCOMPONENT-483bCOMPONENT-484bCOMPONENT-485bCOMPONENT-486bCOMPONENT-487bCOMPONENT-488",
   "bCOMPONENT-489bCOMPONENT-490bCOMPONENT-491bCOMPONENT-492bCOMPONENT-493bCOMPONENT-494",
   "bCOMPONENT-495bCOMPONENT-496bCOMPONENT-497bCOMPONENT-498bCOMPONENT-499bCOMPONENT-500",
   "bCOMPONENT-501bCOMPONENT-502bCOMPONENT-503bCOMPONENT-504bCOMPONENT-505bCOMPONENT-506",
   "bCOMPONENT-507bCOMPONENT-508bCOMPONENT-509bCOMPONENT-510bCOMPONENT-511bCOMPONENT-512",
   "bCOMPONENT-513bCOMPONENT-514bCOMPONENT-515bCOMPONENT-516bCOMPONENT-517bCOMPONENT-518",
   "bCOMPONENT-519bCOMPONENT-520bCOMPONENT-521bCOMPONENT-522bCOMPONENT-523bCOMPONENT-524",
   "bCOMPONENT-525bCOMPONENT-526bCOMPONENT-527bCOMPONENT-528bCOMPONENT-529bCOMPONENT-530",
   "bCOMPONENT-531bCOMPONENT-532bCOMPONENT-533bCOMPONENT-534bCOMPONENT-535bCOMPONENT-536",
   "bCOMPONENT-537bCOMPONENT-538bCOMPONENT-539bCOMPONENT-540bCOMPONENT-541bCOMPONENT-542",
   "bCOMPONENT-543bCOMPONENT-544bCOMPONENT-545bCOMPONENT-546bCOMPONENT-547bCOMPONENT-548",
   "bCOMPONENT-549bCOMPONENT-550bCOMPONENT-551bCOMPONENT-552bCOMPONENT-553bCOMPONENT-554",
   "bCOMPONENT-555bCOMPONENT-556bCOMPONENT-557bCOMPONENT-558bCOMPONENT-559bCOMPONENT-560",
   "bCOMPONENT-561bCOMPONENT-562bCOMPONENT-563bCOMPONENT-564bCOMPONENT-565bCOMPONENT-566",
   "bCOMPONENT-567bCOMPONENT-568bCOMPONENT-569bCOMPONENT-570bCOMPONENT-571bCOMPONENT-572",
   "bCOMPONENT-573bCOMPONENT-574bCOMPONENT-575bCOMPONENT-576bCOMPONENT-577bCOMPONENT-578",
   "bCOMPONENT-579bCOMPONENT-580bCOMPONENT-581bCOMPONENT-582bCOMPONENT-583bCOMPONENT-584",
   "bCOMPONENT-585bCOMPONENT-586bCOMPONENT-587bCOMPONENT-588bCOMPONENT-589bCOMPONENT-590",
   "bCOMPONENT-591bCOMPONENT-592bCOMPONENT-593bCOMPONENT-594bCOMPONENT-595bCOMPONENT-596",
   "bCOMPONENT-597bCOMPONENT-598bCOMPONENT-599bCOMPONENT-600bCOMPONENT-601bCOMPONENT-602",
   "bCOMPONENT-603bCOMPONENT-604bCOMPONENT-605bCOMPONENT-606bCOMPONENT-607bCOMPONENT-608",
   "bCOMPONENT-609bCOMPONENT-610bCOMPONENT-611bCOMPONENT-612bCOMPONENT-613bCOMPONENT-614",
   "bCOMPONENT-615bCOMPONENT-616bCOMPONENT-617bCOMPONENT-618bCOMPONENT-619bCOMPONENT-620",
   "bCOMPONENT-621bCOMPONENT-622bCOMPONENT-623bCOMPONENT-624bCOMPONENT-625bCOMPONENT-626",
   "bCOMPONENT-627bCOMPONENT-628bCOMPONENT-629bCOMPONENT-630bCOMPONENT-631bCOMPONENT-632",
   "bCOMPONENT-633bCOMPONENT-634bCOMPONENT-635bCOMPONENT-636bCOMPONENT-637bCOMPONENT-638",
   "bCOMPONENT-639bCOMPONENT-640bCOMPONENT-641bCOMPONENT-642bCOMPONENT-643bCOMPONENT-644",
   "bCOMPONENT-645bCOMPONENT-646bCOMPONENT-647bCOMPONENT-648bCOMPONENT-649bCOMPONENT-650",
   "bCOMPONENT-651bCOMPONENT-652bCOMPONENT-653bCOMPONENT-654bCOMPONENT-655bCOMPONENT-656",
   "bCOMPONENT-657bCOMPONENT-658bCOMPONENT-659bCOMPONENT-660bCOMPONENT-661bCOMPONENT-662",
   "bCOMPONENT-663bCOMPONENT-664bCOMPONENT-665bCOMPONENT-666bCOMPONENT-667bCOMPONENT-668",
   "bCOMPONENT-669bCOMPONENT-670bCOMPONENT-671bCOMPONENT-672bCOMPONENT-673bCOMPONENT-674",
   "bCOMPONENT-675bCOMPONENT-676bCOMPONENT-677bCOMPONENT-678bCOMPONENT-679bCOMPONENT-680",
   "bCOMPONENT-681bCOMPONENT-682bCOMPONENT-683bCOMPONENT-684bCOMPONENT-685bCOMPONENT-686",
   "bCOMPONENT-687bCOMPONENT-688bCOMPONENT-689bCOMPONENT-690bCOMPONENT-691bCOMPONENT-692",
   "bCOMPONENT-693bCOMPONENT-694bCOMPONENT-695bCOMPONENT-696bCOMPONENT-697bCOMPONENT-698",
   "bCOMPONENT-699bCOMPONENT-700bCOMPONENT-701bCOMPONENT-702bCOMPONENT-703bCOMPONENT-704",
   "bCOMPONENT-705bCOMPONENT-706bCOMPONENT-707bCOMPONENT-708bCOMPONENT-709bCOMPONENT-710",
   "bCOMPONENT-711bCOMPONENT-712bCOMPONENT-713bCOMPONENT-714bCOMPONENT-715bCOMPONENT-716",
   "bCOMPONENT-717bCOMPONENT-718bCOMPONENT-719bCOMPONENT-720bCOMPONENT-721bCOMPONENT-722",
   "bCOMPONENT-723bCOMPONENT-724bCOMPONENT-725bCOMPONENT-726bCOMPONENT-727bCOMPONENT-728",
   "bCOMPONENT-729bCOMPONENT-730bCOMPONENT-731bCOMPONENT-732bCOMPONENT-733bCOMPONENT-734",
   "bCOMPONENT-735bCOMPONENT-736bCOMPONENT-737bCOMPONENT-738bCOMPONENT-739bCOMPONENT-740",
   "bCOMPONENT-741bCOMPONENT-742bCOMPONENT-743bCOMPONENT-744bCOMPONENT-745bCOMPONENT-746",
   "bCOMPONENT-747bCOMPONENT-748bCOMPONENT-749bCOMPONENT-750bCOMPONENT-751bCOMPONENT-752",
   "bCOMPONENT-753bCOMPONENT-754bCOMPONENT-755bCOMPONENT-756bCOMPONENT-757bCOMPONENT-758",
   "bCOMPONENT-759bCOMPONENT-760bCOMPONENT-761bCOMPONENT-762bCOMPONENT-763bCOMPONENT-764",
   "bCOMPONENT-765bCOMPONENT-766bCOMPONENT-767bCOMPONENT-768bITERATION MARKaTAPE CARTRIDGEbDRIVE",
   "aTAURUSaTAXIaTEACUP WITHOUT HANDLEaTEAPOTaTEAR-OFF CALENDARaTEARDROP-BARBED RIGHTWARDS ARROW",
   "aTEARDROP-SPOKED ASTERISKaTEDDY BEARaTELEPHONE LOCATION SIGNbON TOP OF MODEMbRECEIVER",
   "cWITH PAGEbRECORDERbSIGNaTELESCOPEaTELEVISIONaTELUGU AI LENGTH MARKbDIGIT EIGHTcFIVEcFOURcNINE",
   "cONEcSEVENcSIXcTHREEcTWOcZERObFRACTION DIGIT ONE FOR EVEN POWERS OF FOURfODD POWERS OF FOUR",
   "dTHREE FOR EVEN POWERS OF FOURfODD POWERS OF FOURdTWO FOR EVEN POWERS OF FOUR",
   "fODD POWERS OF FOURdZERO FOR ODD POWERS OF FOURbLENGTH MARKbLETTER AcAAcAIcAUcBAcBHAcCAcCHAcDA",
   "cDDAcDDHAcDHAcDZAcEcEEcGAcGHAcHAcIcIIcJAcJHAcKAcKHAcLAcLLAcLLLAcMAcNAcNAKAARA POLLUcNGAcNNA",
   "cNYAcOcOOcPAcPHAcRAcRRAcRRRAcSAcSHAcSSAcTAcTHAcTSAcTTAcTTHAcUcUUcVAcVOCALIC LdLLdRdRRcYA",
   "bSIGN ANUSVARAcAVAGRAHAcCANDRABINDUcCOMBINING ANUSVARA ABOVEdCANDRABINDU ABOVEcNUKTAcSIDDHAM",
   "cTUUMUcVIRAMAcVISARGAbVOWEL SIGN AAdAIdAUdEdEEdIdIIdOdOOdUdUUdVOCALIC LeLLeReRRaTENGE SIGN",
   "aTENNIS RACQUET AND BALLaTENTaTEST TUBEaTETRAGRAM FOR ACCUMULATIONcADVANCEcAGGRAVATIONcASCENT",
   "cBARRIERcBOLD RESOLUTIONcBRANCHING OUTcCENTREcCHANGEcCLOSED MOUTHcCLOSENESScCLOSUREcCOMPLETION",
   "cCOMPLIANCEcCONSTANCYcCONTACTcCONTENTIONcCONTRARIETYcDARKENINGcDECISIVENESS",
   "cDEFECTIVENESS OR DISTORTIONcDEPARTUREcDIFFICULTIEScDIMINISHMENTcDIMMINGcDIVERGENCEcDOUBT",
   "cDUTIEScEASEcEMBELLISHMENTcENCOUNTERScENDEAVOURcENLARGEMENTcETERNITYcEXHAUSTIONcFAILUREcFLIGHT",
   "cFOLLOWINGcFOSTERINGcFULL CIRCLEcFULLNESScGATHERINGdINcGOING TO MEETcGREATNESScGUARDEDNESS",
   "cHARDNESScHOLDING BACKcINCREASEcINNERcJOYcKEEPING SMALLcKINSHIPcLABOURINGcLAW OR MODELcLEGION",
   "cMASSINGcMEASUREcMIREDcON THE VERGEcOPPOSITIONcPACKINGcPATTERNcPENETRATIONcPURITYcREACH",
   "cRELEASEcRESIDENCEcRESISTANCEcRESPONSEcRITUALcSEVERANCEcSINKINGcSTOPPAGEcSTOVEcSTRENGTHcUNITY",
   "cVASTNESS OR WASTINGcWAITINGcWATCHcYOUTHFULNESSaTHAANA AABAAFILIbABAFILIbEBEFILIbEEBEEFILI",
   "bEYBEYFILIbIBIFILIbLETTER AINUcALIFUcBAAcCHAVIYANIcDAADHUcDAVIYANIcDHAALUcFAAFUcGAAFUcGHAINU",
   "cGNAVIYANIcHAAcHHAAcJAVIYANIcKAAFUcKHAAcLAAMUcLHAVIYANIcMEEMUcNAAcNOONUcPAVIYANIcQAAFUcRAA",
   "cSAADHUcSEENUcSHAVIYANIcSHEENUcTAVIYANIcTHAAcTHAALUcTOcTTAAcVAAVUcWAAVUcYAAcZAAcZAVIYANIcZO",
   "bOABOAFILIbOBOFILIbOOBOOFILIbSUKUNbUBUFILIaTHAI CHARACTER ANGKHANKHUcBO BAIMAIcCHO CHANdCHANG",
   "dCHINGdCHOEcDO CHADAdDEKcFO FAdFANcFONGMANcHO HIPdNOKHUKcKHO KHAIdKHONdKHUATdKHWAIdRAKHANG",
   "cKHOMUTcKO KAIcLAKKHANGYAOcLO CHULAdLINGcLUcMAI CHATTAWAdEKdHAN-AKATdTHOdTRIcMAITAIKHU",
   "cMAIYAMOKcMO MAcNGO NGUcNIKHAHITcNO NENdNUcO ANGcPAIYANNOIcPHINTHUcPHO PHANdPHUNGdSAMPHAO",
   "cPO PLAcRO RUAcRUcSARA AdAAdAEdAI MAIMALAIeMAIMUANdAMdEdIdIIdOdUdUEdUEEdUUcSO RUSIdSALAdSOdSUA",
   "cTHANTHAKHATcTHO NANGMONTHOdPHUTHAOdTHAHANdTHANdTHONGdTHUNGcTO PATAKdTAOcWO WAENcYAMAKKAN",
   "cYO YAKdYINGbCURRENCY SYMBOL BAHTbDIGIT EIGHTcFIVEcFOURcNINEcONEcSEVENcSIXcTHREEcTWOcZERO",
   "aTHERE DOES NOT EXISTbEXISTSaTHEREFOREaTHERMODYNAMICaTHERMOMETERaTHIN GREEK CROSSbSALTIRE",
   "bSPACEaTHINKING FACEaTHIRD PLACE MEDALaTHONG SANDALaTHOUGHT BALLOONaTHREE BUTTON MOUSE",
   "bCONSECUTIVE EQUALS SIGNSbDIMENSIONAL ANGLEbDOT PUNCTUATIONbLEFTWARDS ARROWS",
   "bLINES CONVERGING LEFTdRIGHTbNETWORKED COMPUTERSbPOINTED BLACK STARbRAYS ABOVEcBELOWcLEFT",
   "cRIGHTbRIGHTWARDS ARROWSbSPEECH BUBBLESaTHREE-D BOTTOM-LIGHTED RIGHTWARDS ARROWHEAD",
   "bLEFT-LIGHTED DOWNWARDS EQUILATERAL ARROWHEADbRIGHT-LIGHTED UPWARDS EQUILATERAL ARROWHEAD",
   "bTOP-LIGHTED LEFTWARDS EQUILATERAL ARROWHEADcRIGHTWARDS ARROWHEADdEQUILATERAL ARROWHEAD",
   "aTHREE-EM DASHaTHREE-PER-EM SPACEaTHUMBS DOWN SIGNbUP SIGNaTHUNDER CLOUD AND RAINaTHUNDERSTORM",
   "aTIBETAN ASTROLOGICAL SIGN -KHYUD PAdSDONG TSHUGSdSGRA GCAN -CHAR RTAGS",
   "bCANTILLATION SIGN CANG TE-UdHEAVY BEATdLIGHT BEATdSBUB -CHALbDIGIT EIGHTcFIVEcFOURcHALF EIGHT",
   "dFIVEdFOURdNINEdONEdSEVENdSIXdTHREEdTWOdZEROcNINEcONEcSEVENcSIXcTHREEcTWOcZERObKU RU KHA",
   "eBZHI MIG CANbLETTER -AcAcBAcBHAcCAcCHAcDAcDDAcDDHAcDHAcDZAcDZHAcFIXED-FORM RAcGAcGHAcHAcJAcKA",
   "cKHAcKKAcKSSAcLAcMAcNAcNGAcNNAcNYAcPAcPHAcRAcRRAcSAcSHAcSSAcTAcTHAcTSAcTSHAcTTAcTTHAcWAcYAcZA",
   "cZHAbLOGOTYPE SIGN CHAD RTAGSdLHAG RTAGSbMARK ANG KHANG GYASeGYONcBKA- SHOG GI MGO RGYAN",
   "eYIG MGOcBSDUS RTAGScBSKA- SHOG GI MGO RGYANcBSKUR YIG MGOcCARET -DZUD RTAGS BZHI MIG CAN",
   "fME LONG CANdYIG MGO PHUR SHAD MAcCHE MGOcCLOSING BRDA RNYING YIG MGO SGAB MAdYIG MGO SGAB MA",
   "cDELIMITER TSHEG BSTARcGTER TSHEGdYIG MGO -UM GTER TSHEG MAgRNAM BCAD MAfTRUNCATED A",
   "cGUG RTAGS GYASeGYONcHALANTAcINITIAL BRDA RNYING YIG MGO MDUN MAdYIG MGO MDUN MA",
   "cINTERSYLLABIC TSHEGcLEADING MCHAN RTAGScMNYAM YIG GI MGO RGYANcNGAS BZUNG NYI ZLAeSGOR RTAGS",
   "cNYIS SHADdTSHEGeSHADcPALUTAcRGYA GRAM SHADcRIN CHEN SPUNGS SHADcSBRUL SHADcSHAD",
   "cTRAILING MCHAN RTAGScTSA -PHRUcTSHEG SHADcYIG MGO TSHEG SHAD MAbSIGN GRU CAN RGYINGS",
   "dMED RGYINGScINVERTED MCHU CANcLCE TSA CANcLCI RTAGScMAR TSHEScMCHU CANcNYI ZLA NAA DA",
   "cRDEL DKAR GCIGeGNYISeGSUMeRDEL NAGdNAG GCIGeGNYISeGSUMeRDEL DKARcRJES SU NGA ROcRNAM BCAD",
   "cSNA LDANcYANG RTAGScYAR TSHESbSUBJOINED LETTER -AdAdBAdBHAdCAdCHAdDAdDDAdDDHAdDHAdDZAdDZHA",
   "dFIXED-FORM RAeWAeYAdGAdGHAdHAdJAdKAdKHAdKSSAdLAdMAdNAdNGAdNNAdNYAdPAdPHAdRAdSAdSHAdSSAdTAdTHA",
   "dTSAdTSHAdTTAdTTHAdWAdYAdZAdZHAcSIGN INVERTED MCHU CANdLCE TSA CANdMCHU CANbSYLLABLE OM",
   "bSYMBOL DRIL BUcNOR BUeBZHI -KHYILeGSUM -KHYILeNYIS -KHYILcPADMA GDANcPHUR PAcRDO RJE",
   "eRGYA GRAMbVOWEL SIGN AAdEdEEdIdIIdOdOOdREVERSED IeIIdUdUUdVOCALIC LeLLeReRRaTICKET",
   "aTIE OVER INFINITYaTIFINAGH CONSONANT JOINERbLETTER AHAGGAR YAZHcAYER YAGHcBERBER ACADEMY YAH",
   "eYAJcTAWELLEMET YAZcTUAREG YAGHdYAGNdYAHdYAKdYAKHdYANGdYAQdYAZHcYAcYAAcYABcYABHcYACHcYADcYADD",
   "cYADDHcYADHcYAFcYAGcYAGHcYAGHHcYAHcYAHHcYAJcYAKcYAKHcYAKHHcYALcYAMcYANcYAPcYAQcYARcYARRcYAS",
   "cYASHcYASScYATcYATHcYATTcYAVcYAWcYAYcYAZcYAZHcYAZZcYEcYEYcYIcYOcYU",
   "bMODIFIER LETTER LABIALIZATION MARKbSEPARATOR MARKaTIGERbFACEaTIGHT TRIFOLIATE SNOWFLAKEaTILDE",
   "bOPERATORcABOVE LEFTWARDS ARROWdRIGHTWARDS ARROWcWITH DOT ABOVEdRISING DOTSbWITH DOT ABOVE",
   "dBELOWcRING ABOVEaTIMER CLOCKaTIMES WITH LEFT HALF BLACKcRIGHT HALF BLACKaTINY",
   "bTWO DOTS OVER ONE DOT PUNCTUATIONaTIRED FACEaTIRHUTA ABBREVIATION SIGNbANJIbDIGIT EIGHTcFIVE",
   "cFOURcNINEcONEcSEVENcSIXcTHREEcTWOcZERObGVANGbLETTER AcAAcAIcAUcBAcBHAcCAcCHAcDAcDDAcDDHAcDHA",
   "cEcGAcGHAcHAcIcIIcJAcJHAcKAcKHAcLAcMAcNAcNGAcNNAcNYAcOcPAcPHAcRAcSAcSHAcSSAcTAcTHAcTTAcTTHAcU",
   "cUUcVAcVOCALIC LdLLdRdRRcYAbOMbSIGN ANUSVARAcAVAGRAHAcCANDRABINDUcNUKTAcVIRAMAcVISARGA",
   "bVOWEL SIGN AAdAIdAUdEdIdIIdOdSHORT EeOdUdUUdVOCALIC LeLLeReRRaTIRONIAN SIGN CAPITAL ETcET",
   "aTOILETaTOKYO TOWERaTOMATOaTONGUEaTOOLBOXaTOOTHaTOOTHBRUSHaTOP ARC ANTICLOCKWISE ARROW",
   "eWITH PLUScCLOCKWISE ARROW WITH MINUSbCURLY BRACKETbHALF BLACK CIRCLEcINTEGRAL",
   "cLEFT PARENTHESIScRIGHT PARENTHESIScSECTION SIGNbHATbLEFT CORNERcCROPcHALF BRACKETbPARENTHESIS",
   "bRIGHT CORNERcCROPcHALF BRACKETbSQUARE BRACKETbTORTOISE SHELL BRACKETbWITH UPWARDS ARROW ABOVE",
   "aTORTOISE SHELL BRACKETED CJK UNIFIED IDEOGRAPH-4E09fIDEOGRAPH-4E8CfIDEOGRAPH-52DD",
   "fIDEOGRAPH-5B89fIDEOGRAPH-6253fIDEOGRAPH-6557fIDEOGRAPH-672CfIDEOGRAPH-70B9fIDEOGRAPH-76D7",
   "dLATIN CAPITAL LETTER SaTOTAL RUNOUTaTOTO LETTER AcAEcBAcBREATHY AEdEdEOdIdIUcCHAcDAcEcEOcGA",
   "cHAcIcIUcJAcKAcLAcMAcNAcNGAcOcPAcRAcSAcTAcUcWAcYAbSIGN RISING TONEaTRACKBALLaTRACTOR",
   "aTRADE MARK SIGNaTRAINaTRAMbCARaTRANSPLUTOaTRANSVERSAL INTERSECTIONaTRIANGLE WITH DOT ABOVE",
   "cROUNDED CORNERScSERIFS AT BOTTOMcUNDERBARaTRIANGLE-HEADED RIGHTWARDS ARROWaTRIANGULAR BULLET",
   "bFLAG ON POSTbRULERaTRICOLONaTRIDENT EMBLEMaTRIGRAM FOR EARTHcFIREcHEAVENcLAKEcMOUNTAIN",
   "cTHUNDERcWATERcWINDaTRIPLE COLON OPERATORbDAGGERbHORIZONTAL BAR WITH DOUBLE VERTICAL STROKE",
   "eTRIPLE VERTICAL STROKEbINTEGRALbNESTED GREATER-THANcLESS-THANbPLUSbPRIME",
   "bSOLIDUS BINARY RELATIONbTILDEbVERTICAL BAR BINARY RELATIONdDELIMITERdRIGHT TURNSTILE",
   "dWITH HORIZONTAL STROKEaTROLLaTROLLEYBUSaTROPHYaTROPICAL DRINKbFISHaTRUEbLIGHT MOON ARTA",
   "aTRUMPETaTUGRIK SIGNaTULIPaTUMBLER GLASSaTURKEYaTURKISH LIRA SIGNaTURNED AMPERSANDbANGLE",
   "bBLACK PENTAGONcSHOGI PIECEbCAPITAL FbCOMMAbDAGGERbDIGIT THREEcTWObGREEK SMALL LETTER IOTA",
   "bNORTH EAST POINTING LEAFcWEST POINTING LEAFbNOT SIGNbOK HAND SIGNbSANS-SERIF CAPITAL GdLdY",
   "bSEMICOLONbSMALL FbSOUTH EAST POINTING LEAFcWEST POINTING LEAFbWHITE SHOGI PIECEaTURTLE",
   "aTWELVE POINTED BLACK STARaTWISTED RIGHTWARDS ARROWSaTWO ASTERISKS ALIGNED VERTICALLY",
   "bBUTTON MOUSEbCONSECUTIVE EQUALS SIGNSbDOT LEADERcPUNCTUATIONbDOTS OVER ONE DOT PUNCTUATION",
   "bHEARTSbINTERSECTING LOGICAL ANDdORbJOINED SQUARESbLOGICAL AND OPERATORcOR OPERATOR",
   "bMEN HOLDING HANDSbSPEECH BUBBLESbWOMEN HOLDING HANDSaTWO-EM DASHaUGARITIC LETTER AINcALPA",
   "cBETAcDELTAcDHALcGAMLAcGHAINcHOcHOTAcIcKAFcKHAcLAMDAcMEMcNUNcPUcQOPAcRASHAcSADEcSAMKAcSHINcSSU",
   "cTETcTHANNAcTOcUcWOcYODcZETAcZUbWORD DIVIDERaUMBRELLAbON GROUNDbWITH RAIN DROPSaUNAMUSED FACE",
   "aUNCERTAINTY SIGNaUNDERTIEaUNDO SYMBOLaUNICORN FACEaUNIONbABOVE BAR ABOVE INTERSECTION",
   "cINTERSECTIONbBESIDE AND JOINED WITH UNIONbWITH LOGICAL ORcMINUS SIGNcOVERBARaUNIT SEPARATOR",
   "aUNITED SYMBOLaUNIVERSAL RECYCLING SYMBOLaUNMARRIED PARTNERSHIP SYMBOLaUP ARROW THROUGH CIRCLE",
   "bARROWHEADcBETWEEN TWO HORIZONTAL BARScIN A RECTANGLE BOXbBARB LEFT DOWN BARB LEFT HARPOON",
   "fRIGHT HARPOONcRIGHT DOWN BARB LEFT HARPOONfRIGHT HARPOONbDOWN ARROWdWITH BASEcBLACK ARROW",
   "cDOUBLE ARROWcSANS-SERIF ARROWcTRIANGLE-HEADED ARROWcWHITE ARROWbFISH TAIL",
   "bRIGHT DIAGONAL ELLIPSISbTACKcWITH CIRCLE ABOVEaUP-POINTING AIRPLANEbMILITARY AIRPLANE",
   "bRED TRIANGLEbSMALL AIRPLANEcRED TRIANGLEbTRIANGLE WITH LEFT HALF BLACKdRIGHT HALF BLACK",
   "aUPPER AND LEFT AND LOWER TRIANGULAR THREE QUARTERS BLOCKcLOWER ONE EIGHTH BLOCK",
   "dTRIANGULAR HALF BLOCKcRIGHT AND LOWER TRIANGULAR THREE QUARTERS BLOCKbBLADE SCISSORS",
   "bFIVE EIGHTHS BLOCKbHALF BLOCKdAND LOWER HALF INVERSE MEDIUM SHADEcCIRCLE",
   "cINVERSE MEDIUM SHADE AND LOWER HALF BLOCKdWHITE CIRCLEcMEDIUM SHADE",
   "bLEFT BLOCK DIAGONAL LOWER CENTRE TO LOWER MIDDLE RIGHThUPPER MIDDLE RIGHTiRIGHT",
   "fLEFT TO LOWER MIDDLE RIGHThUPPER CENTREiMIDDLE RIGHTfMIDDLE LEFT TO UPPER CENTREjMIDDLE RIGHT",
   "jRIGHTeUPPER MIDDLE LEFT TO UPPER CENTREjRIGHTcCORNER WITH DOT",
   "cOR LOWER RIGHT CURLY BRACKET SECTIONcQUADRANT CIRCULAR ARCcTO LOWER RIGHT FILLcTRIANGLE",
   "cTRIANGULAR MEDIUM SHADEbONE EIGHTH BLOCKcQUARTER BLOCK",
   "bRIGHT BLOCK DIAGONAL LOWER MIDDLE LEFT TO LOWER CENTREjRIGHT",
   "eUPPER CENTRE TO LOWER MIDDLE RIGHTiRIGHThUPPER MIDDLE RIGHTfLEFT TO LOWER CENTREiMIDDLE RIGHT",
   "hUPPER MIDDLE RIGHTfMIDDLE LEFT TO LOWER CENTREjMIDDLE RIGHTjRIGHTcDROP-SHADOWED WHITE SQUARE",
   "cOR LOWER LEFT CURLY BRACKET SECTIONcPENCILcQUADRANT CIRCULAR ARCcSHADOWED WHITE CIRCLEeSQUARE",
   "cTO LOWER LEFT FILLcTRIANGLEcTRIANGULAR MEDIUM SHADEbSEVEN EIGHTHS BLOCKbTHREE EIGHTHS BLOCK",
   "cQUARTERS BLOCKbTRIANGULAR ONE QUARTER BLOCKaUPSIDE-DOWN FACEaUPWARDS ANCORAbARROW",
   "cAND RIGHT ONE EIGHTH BLOCKcFROM BARcLEFTWARDS OF DOWNWARDS ARROWcTO BARcWITH DOUBLE STROKE",
   "dEQUILATERAL ARROWHEADdHORIZONTAL STROKEdLARGE TRIANGLE ARROWHEADdMEDIUM TRIANGLE ARROWHEAD",
   "dNOTCHED TAILdSMALL EQUILATERAL ARROWHEADeTRIANGLE ARROWHEADdTIP LEFTWARDSeRIGHTWARDS",
   "bBLACK ARROWcCIRCLED WHITE ARROWbCOMPRESSED ARROWbDASHED ARROWbDOUBLE ARROWbFINGER-POST ARROW",
   "bHARPOON WITH BARB LEFT BESIDE DOWNWARDS HARPOON WITH BARB RIGHT",
   "gUPWARDS HARPOON WITH BARB RIGHTfFROM BARfTO BAReLEFTWARDSeRIGHT FROM BARfTO BAReRIGHTWARDS",
   "bHEAVY ARROWcCOMPRESSED ARROWbPAIRED ARROWSbQUADRUPLE ARROWbROCKETbSANS-SERIF ARROW",
   "bSQUARED ARROWbTRIANGLE ARROWHEADbTRIANGLE-HEADED ARROW",
   "dLEFTWARDS OF DOWNWARDS TRIANGLE-HEADED ARROWdTO BARdWITH BOLD SHAFTeDOUBLE HORIZONTAL STROKE",
   "eHEAVY SHAFTeLONG TIP LEFTWARDSgRIGHTWARDSeMEDIUM SHAFTeNARROW SHAFTeVERY HEAVY SHAFT",
   "cDASHED ARROWcPAIRED ARROWSbTRIPLE ARROWbTWO HEADED ARROWbTWO-HEADED ARROW FROM SMALL CIRCLE",
   "dWITH TRIANGLE ARROWHEADSbWHITE ARROWdFROM BARfWITH HORIZONTAL BARdON PEDESTAL",
   "fWITH HORIZONTAL BARgVERTICAL BARdWITHIN TRIANGLE ARROWHEADcDOUBLE ARROWeON PEDESTALaURANUSaUS",
   "aVAI COMMAbDIGIT EIGHTcFIVEcFOURcNINEcONEcSEVENcSIXcTHREEcTWOcZERObFULL STOPbQUESTION MARK",
   "bSYLLABLE AcANcBAcBEcBEEcBHAcBHEcBHEEcBHIcBHOcBHOOcBHUcBIcBOcBOOcBUcCAcCEcCEEcCIcCOcCOOcCUcDA",
   "cDEcDEEcDHAcDHEcDHEEcDHHAcDHHEcDHHEEcDHHIcDHHOcDHHOOcDHHUcDHIcDHOcDHOOcDHUcDIcDOcDOOcDUcEcEE",
   "cEENcENcFAcFEcFEEcFIcFOcFOOcFUcGAcGBAcGBEcGBEEcGBENcGBIcGBOcGBONcGBOOcGBUcGEcGEEcGENcGIcGOcGOO",
   "cGUcHAcHANcHEcHEEcHENcHIcHINcHOcHONcHOOcHUcHUNcIcINcJAcJEcJEEcJIcJOcJOOcJUcKAcKANcKEcKEEcKIcKO",
   "cKOOcKPAcKPANcKPEcKPEEcKPENcKPIcKPOcKPOOcKPUcKUcLAcLEcLEEcLENGTHENERcLIcLOcLOOcLUcMAcMBAcMBE",
   "cMBEEcMBIcMBOcMBOOcMBUcMEcMEEcMGBAcMGBEcMGBEEcMGBIcMGBOcMGBOOcMGBUcMIcMOcMOOcMUcNAcNDAcNDE",
   "cNDEEcNDIcNDOcNDOLE DOdFAdKAdMAdSOOcNDOOcNDUcNEcNEEcNGcNGANcNGENcNGGAcNGGEcNGGEEcNGGENcNGGI",
   "cNGGOcNGGOOcNGGUcNGONcNIcNJAcNJEcNJEEcNJIcNJOcNJOOcNJUcNOcNOOcNUcNYAcNYEcNYEEcNYIcNYOcNYOOcNYU",
   "cOcONcOOcOONcPAcPEcPEEcPIcPOcPOOcPUcRAcREcREEcRIcROcROOcRUcSAcSEcSEEcSHAcSHEcSHEEcSHIcSHOcSHOO",
   "cSHUcSIcSOcSOOcSUcTAcTEcTEEcTHAcTHEcTHEEcTHIcTHOcTHOOcTHUcTIcTOcTOOcTUcUcUNcVAcVEcVEEcVIcVO",
   "cVOOcVUcWAcWANcWEcWEEcWEENcWENcWIcWINcWOcWONcWOOcWOONcWUcWUNcYAcYEcYEEcYIcYOcYOOcYUcZAcZEcZEE",
   "cZHAcZHEcZHEEcZHIcZHOcZHOOcZHUcZIcZOcZOOcZUbSYMBOL BANGcDANGcDO-OcDOONGcFAAcFEENGcJONGcKEENG",
   "cKUNGcNIIcTAAcTINGcTONGaVAMPIREaVARIATION SELECTOR-1bSELECTOR-10bSELECTOR-100bSELECTOR-101",
   "bSELECTOR-102bSELECTOR-103bSELECTOR-104bSELECTOR-105bSELECTOR-106bSELECTOR-107bSELECTOR-108",
   "bSELECTOR-109bSELECTOR-11bSELECTOR-110bSELECTOR-111bSELECTOR-112bSELECTOR-113bSELECTOR-114",
   "bSELECTOR-115bSELECTOR-116bSELECTOR-117bSELECTOR-118bSELECTOR-119bSELECTOR-12bSELECTOR-120",
   "bSELECTOR-121bSELECTOR-122bSELECTOR-123bSELECTOR-124bSELECTOR-125bSELECTOR-126bSELECTOR-127",
   "bSELECTOR-128bSELECTOR-129bSELECTOR-13bSELECTOR-130bSELECTOR-131bSELECTOR-132bSELECTOR-133",
   "bSELECTOR-134bSELECTOR-135bSELECTOR-136bSELECTOR-137bSELECTOR-138bSELECTOR-139bSELECTOR-14",
   "bSELECTOR-140bSELECTOR-141bSELECTOR-142bSELECTOR-143bSELECTOR-144bSELECTOR-145bSELECTOR-146",
   "bSELECTOR-147bSELECTOR-148bSELECTOR-149bSELECTOR-15bSELECTOR-150bSELECTOR-151bSELECTOR-152",
   "bSELECTOR-153bSELECTOR-154bSELECTOR-155bSELECTOR-156bSELECTOR-157bSELECTOR-158bSELECTOR-159",
   "bSELECTOR-16bSELECTOR-160bSELECTOR-161bSELECTOR-162bSELECTOR-163bSELECTOR-164bSELECTOR-165",
   "bSELECTOR-166bSELECTOR-167bSELECTOR-168bSELECTOR-169bSELECTOR-17bSELECTOR-170bSELECTOR-171",
   "bSELECTOR-172bSELECTOR-173bSELECTOR-174bSELECTOR-175bSELECTOR-176bSELECTOR-177bSELECTOR-178",
   "bSELECTOR-179bSELECTOR-18bSELECTOR-180bSELECTOR-181bSELECTOR-182bSELECTOR-183bSELECTOR-184",
   "bSELECTOR-185bSELECTOR-186bSELECTOR-187bSELECTOR-188bSELECTOR-189bSELECTOR-19bSELECTOR-190",
   "bSELECTOR-191bSELECTOR-192bSELECTOR-193bSELECTOR-194bSELECTOR-195bSELECTOR-196bSELECTOR-197",
   "bSELECTOR-198bSELECTOR-199bSELECTOR-2bSELECTOR-20bSELECTOR-200bSELECTOR-201bSELECTOR-202",
   "bSELECTOR-203bSELECTOR-204bSELECTOR-205bSELECTOR-206bSELECTOR-207bSELECTOR-208bSELECTOR-209",
   "bSELECTOR-21bSELECTOR-210bSELECTOR-211bSELECTOR-212bSELECTOR-213bSELECTOR-214bSELECTOR-215",
   "bSELECTOR-216bSELECTOR-217bSELECTOR-218bSELECTOR-219bSELECTOR-22bSELECTOR-220bSELECTOR-221",
   "bSELECTOR-222bSELECTOR-223bSELECTOR-224bSELECTOR-225bSELECTOR-226bSELECTOR-227bSELECTOR-228",
   "bSELECTOR-229bSELECTOR-23bSELECTOR-230bSELECTOR-231bSELECTOR-232bSELECTOR-233bSELECTOR-234",
   "bSELECTOR-235bSELECTOR-236bSELECTOR-237bSELECTOR-238bSELECTOR-239bSELECTOR-24bSELECTOR-240",
   "bSELECTOR-241bSELECTOR-242bSELECTOR-243bSELECTOR-244bSELECTOR-245bSELECTOR-246bSELECTOR-247",
   "bSELECTOR-248bSELECTOR-249bSELECTOR-25bSELECTOR-250bSELECTOR-251bSELECTOR-252bSELECTOR-253",
   "bSELECTOR-254bSELECTOR-255bSELECTOR-256bSELECTOR-26bSELECTOR-27bSELECTOR-28bSELECTOR-29",
   "bSELECTOR-3bSELECTOR-30bSELECTOR-31bSELECTOR-32bSELECTOR-33bSELECTOR-34bSELECTOR-35",
   "bSELECTOR-36bSELECTOR-37bSELECTOR-38bSELECTOR-39bSELECTOR-4bSELECTOR-40bSELECTOR-41",
   "bSELECTOR-42bSELECTOR-43bSELECTOR-44bSELECTOR-45bSELECTOR-46bSELECTOR-47bSELECTOR-48",
   "bSELECTOR-49bSELECTOR-5bSELECTOR-50bSELECTOR-51bSELECTOR-52bSELECTOR-53bSELECTOR-54",
   "bSELECTOR-55bSELECTOR-56bSELECTOR-57bSELECTOR-58bSELECTOR-59bSELECTOR-6bSELECTOR-60",
   "bSELECTOR-61bSELECTOR-62bSELECTOR-63bSELECTOR-64bSELECTOR-65bSELECTOR-66bSELECTOR-67",
   "bSELECTOR-68bSELECTOR-69bSELECTOR-7bSELECTOR-70bSELECTOR-71bSELECTOR-72bSELECTOR-73",
   "bSELECTOR-74bSELECTOR-75bSELECTOR-76bSELECTOR-77bSELECTOR-78bSELECTOR-79bSELECTOR-8",
   "bSELECTOR-80bSELECTOR-81bSELECTOR-82bSELECTOR-83bSELECTOR-84bSELECTOR-85bSELECTOR-86",
   "bSELECTOR-87bSELECTOR-88bSELECTOR-89bSELECTOR-9bSELECTOR-90bSELECTOR-91bSELECTOR-92",
   "bSELECTOR-93bSELECTOR-94bSELECTOR-95bSELECTOR-96bSELECTOR-97bSELECTOR-98bSELECTOR-99",
   "aVECTOR OR CROSS PRODUCTaVEDIC SIGN ANUSVARA ANTARGOMUKHAdBAHIRGOMUKHAdUBHAYATO MUKHA",
   "dVAMAGOMUKHAeWITH TAILcARDHAVISARGAcATIKRAMAcDOUBLE ANUSVARA ANTARGOMUKHA",
   "cHEXIFORM LONG ANUSVARAcJIHVAMULIYAcLONG ANUSVARAcNIHSHVASAcREVERSED VISARGA ANUDATTAeUDATTA",
   "cROTATED ARDHAVISARGAcRTHANG LONG ANUSVARAcTIRYAKcUPADHMANIYAcVISARGA ANUDATTAeWITH TAIL",
   "dSVARITAdUDATTAeWITH TAILcYAJURVEDIC MIDLINE SVARITAbTONE ATHARVAVEDIC INDEPENDENT SVARITA",
   "cCANDRA ABOVEdBELOWcDOT BELOWcDOUBLE RING ABOVEdSVARITAcKARSHANAcKATHAKA ANUDATTAcPRENKHA",
   "cRIGVEDIC KASHMIRI INDEPENDENT SVARITAcRING ABOVEcSHARAcTHREE DOTS BELOWcTRIPLE SVARITA",
   "cTWO DOTS BELOWcYAJURVEDIC AGGRAVATED INDEPENDENT SVARITAdINDEPENDENT SVARITA",
   "dKATHAKA INDEPENDENT SVARITAgSCHROEDERaVERSICLEaVERTICAL BAR BESIDE RIGHT TRIANGLE",
   "cDOUBLE LEFT TURNSTILEcTRIPLE RIGHT TURNSTILEcWITH HORIZONTAL STROKEbELLIPSISbFOUR DOTS",
   "bIDEOGRAPHIC ITERATION MARKbKANA REPEAT MARKeLOWER HALFeUPPER HALFdWITH VOICED SOUND MARK",
   "hUPPER HALFbLINEcEXTENSIONcWITH CIRCLE ABOVEeBELOWdMIDDLE DOTbMALE WITH STROKE SIGN",
   "bONE EIGHTH BLOCK-2dBLOCK-3dBLOCK-4dBLOCK-5dBLOCK-6dBLOCK-7bSIX DOTSbTAB KEYbTABULATIONcSET",
   "bTILDEbTRAFFIC LIGHTbZIGZAG LINEaVERY BOLD GREEK CROSSbHEAVY EIGHT POINTED BLACK STAR",
   "dSPOKED ASTERISKcFIVE SPOKED ASTERISKcGREEK CROSScREVERSE SOLIDUScSALTIREcSIX SPOKED ASTERISK",
   "cSOLIDUScWHITE CIRCLEdSQUAREbMUCH GREATER-THANcLESS-THANaVESTAaVIBRATION MODEaVICTORY HAND",
   "aVIDEO CAMERAbGAMEaVIDEOCASSETTEaVIETNAMESE ALTERNATE READING MARK CAeNHAYaVIEWDATA SQUARE",
   "aVIOLINaVIRGOaVITHKUQI CAPITAL LETTER AdBBEdBEdCEdCHEdDEdDHEdEdEIdFEdGAdHAdHHAdIdIJEdJEdKAdLA",
   "dLLAdMEdNEdNJEdOdPEdQAdREdSEdSHEdTEdTHEdUdVEdXEdYdZEbSMALL LETTER AdBBEdBEdCEdCHEdDEdDHEdEdEI",
   "dFEdGAdHAdHHAdIdIJEdJEdKAdLAdLLAdMEdNEdNJEdOdPEdQAdREdSEdSHEdTEdTHEdUdVEdXEdYdZE",
   "aVOIDED GREEK CROSSaVOLCANOaVOLLEYBALLaVOLUME INTEGRALaVS1aVS10aVS100aVS101aVS102aVS103aVS104",
   "aVS105aVS106aVS107aVS108aVS109aVS11aVS110aVS111aVS112aVS113aVS114aVS115aVS116aVS117aVS118",
   "aVS119aVS12aVS120aVS121aVS122aVS123aVS124aVS125aVS126aVS127aVS128aVS129aVS13aVS130aVS131aVS132",
   "aVS133aVS134aVS135aVS136aVS137aVS138aVS139aVS14aVS140aVS141aVS142aVS143aVS144aVS145aVS146",
   "aVS147aVS148aVS149aVS15aVS150aVS151aVS152aVS153aVS154aVS155aVS156aVS157aVS158aVS159aVS16aVS160",
   "aVS161aVS162aVS163aVS164aVS165aVS166aVS167aVS168aVS169aVS17aVS170aVS171aVS172aVS173aVS174",
   "aVS175aVS176aVS177aVS178aVS179aVS18aVS180aVS181aVS182aVS183aVS184aVS185aVS186aVS187aVS188",
   "aVS189aVS19aVS190aVS191aVS192aVS193aVS194aVS195aVS196aVS197aVS198aVS199aVS2aVS20aVS200aVS201",
   "aVS202aVS203aVS204aVS205aVS206aVS207aVS208aVS209aVS21aVS210aVS211aVS212aVS213aVS214aVS215",
   "aVS216aVS217aVS218aVS219aVS22aVS220aVS221aVS222aVS223aVS224aVS225aVS226aVS227aVS228aVS229aVS23",
   "aVS230aVS231aVS232aVS233aVS234aVS235aVS236aVS237aVS238aVS239aVS24aVS240aVS241aVS242aVS243",
   "aVS244aVS245aVS246aVS247aVS248aVS249aVS25aVS250aVS251aVS252aVS253aVS254aVS255aVS256aVS26aVS27",
   "aVS28aVS29aVS3aVS30aVS31aVS32aVS33aVS34aVS35aVS36aVS37aVS38aVS39aVS4aVS40aVS41aVS42aVS43aVS44",
   "aVS45aVS46aVS47aVS48aVS49aVS5aVS50aVS51aVS52aVS53aVS54aVS55aVS56aVS57aVS58aVS59aVS6aVS60aVS61",
   "aVS62aVS63aVS64aVS65aVS66aVS67aVS68aVS69aVS7aVS70aVS71aVS72aVS73aVS74aVS75aVS76aVS77aVS78aVS79",
   "aVS8aVS80aVS81aVS82aVS83aVS84aVS85aVS86aVS87aVS88aVS89aVS9aVS90aVS91aVS92aVS93aVS94aVS95aVS96",
   "aVS97aVS98aVS99aVTaVTSaVULCANUSaVULGAR FRACTION FIVE EIGHTHSdSIXTHScFOUR FIFTHScONE EIGHTH",
   "dFIFTHdHALFdNINTHdQUARTERdSEVENTHdSIXTHdTENTHdTHIRDcSEVEN EIGHTHScTHREE EIGHTHSdFIFTHS",
   "dQUARTERScTWO FIFTHSdTHIRDScZERO THIRDSaWAFFLEaWANCHO DIGIT EIGHTcFIVEcFOURcNINEcONEcSEVENcSIX",
   "cTHREEcTWOcZERObLETTER AcAAcAANcAANGcANGcAUcBAcCAcDAcEcENcFAcGAcHAcIcINGcJAcKAcKHAcLAcLLHAcMA",
   "cNAcNGAcNYAcOcONcONGcPAcPHAcRAcSAcSHAcTAcTHAcTRAcTSAcUcUENcVAcWAcYAcYIHcZAbNGUN SIGNbTONE KOI",
   "cKOINIcTUPcTUPNIaWANING CRESCENT MOON SYMBOLbGIBBOUS MOON SYMBOLaWARANG CITI CAPITAL LETTER A",
   "eAMeANGeATeBUeDAeEeENNeENYeGAeHAReHIYOeHOLOeHORReIIeKOeNGAAeNUNGeOeODDePUeSIIeSSUUeTTEeUCeUU",
   "eVIYOeWIeYAeYOeYUeYUJcDIGIT EIGHTdFIVEdFOURdNINEdONEdSEVENdSIXdTHREEdTWOdZEROcNUMBER EIGHTY",
   "dFIFTYdFORTYdNINETYdSEVENTYdSIXTYdTENdTHIRTYdTWENTYcOMcSMALL LETTER AeAMeANGeATeBUeDAeEeENN",
   "eENYeGAeHAReHIYOeHOLOeHORReIIeKOeNGAAeNUNGeOeODDePUeSIIeSSUUeTTEeUCeUUeVIYOeWIeYAeYOeYUeYUJ",
   "aWARNING SIGNaWASTEBASKETaWATCHaWATER BUFFALObCLOSETbPOLObWAVEaWATERMELON",
   "aWAVE ARROW POINTING DIRECTLY LEFTeRIGHTbDASHaWAVING BLACK FLAGbHAND SIGNbWHITE FLAGaWAVY DASH",
   "bLINEbLOW LINEbOVERLINEaWAXING CRESCENT MOON SYMBOLbGIBBOUS MOON SYMBOLaWEARY CAT FACEbFACE",
   "aWEDDINGaWEDGE-TAILED RIGHTWARDS ARROWaWEIERSTRASS ELLIPTIC FUNCTIONaWEIGHT LIFTER",
   "aWEST SYRIAC CROSSaWHALEaWHEELbOF DHARMAaWHEELCHAIR SYMBOLaWHITE ARROW SHAFT WIDTH ONE",
   "eTWO THIRDSbBULLETbCHESS BISHOPdROTATED NINETY DEGREESeTWO HUNDRED SEVENTY DEGREEScEQUIHOPPER",
   "dROTATED NINETY DEGREEScKINGdROTATED NINETY DEGREESeTWO HUNDRED SEVENTY DEGREEScKNIGHT",
   "dROTATED FORTY-FIVE DEGREESeNINETY DEGREESeONE HUNDRED THIRTY-FIVE DEGREES",
   "eTHREE HUNDRED FIFTEEN DEGREESeTWO HUNDRED SEVENTY DEGREESgTWENTY-FIVE DEGREEScKNIGHT-BISHOP",
   "cKNIGHT-QUEENcKNIGHT-ROOKcPAWNdROTATED NINETY DEGREESeTWO HUNDRED SEVENTY DEGREEScQUEEN",
   "dROTATED NINETY DEGREESeTWO HUNDRED SEVENTY DEGREEScROOKdROTATED NINETY DEGREES",
   "eTWO HUNDRED SEVENTY DEGREEScTURNED BISHOPdKINGdKNIGHTdPAWNdQUEENdROOKbCIRCLE",
   "cCONTAINING BLACK SMALL CIRCLEcWITH DOT RIGHTdDOWN ARROWdLOWER LEFT QUADRANTeRIGHT QUADRANT",
   "dTWO DOTSdUPPER LEFT QUADRANTeRIGHT QUADRANTbCLUB SUITbCONCAVE-SIDED DIAMOND",
   "dWITH LEFTWARDS TICKeRIGHTWARDS TICKbDIAMONDcCONTAINING BLACK MEDIUM DIAMONDeSMALL DIAMOND",
   "eVERY SMALL DIAMONDcIN SQUAREcSUITcWITH CENTRED DOTbDOWN POINTING BACKHAND INDEXdINDEX",
   "dLEFT HAND INDEXbDOWN-POINTING SMALL TRIANGLEcTRIANGLEbDRAUGHTS KINGcMAN",
   "bEXCLAMATION MARK ORNAMENTbFLAGcWITH HORIZONTAL MIDDLE BLACK STRIPEbFLORETTEbFLOWER",
   "bFOUR POINTED CUSPdSTARbFROWNING FACEbHARD SHELL FLOPPY DISKbHEARTcSUITbHEAVY CHECK MARK",
   "cSALTIRE WITH ROUNDED CORNERSbHEXAGONbHORIZONTAL ELLIPSEbHOURGLASSbLARGE SQUAREbLATIN CROSS",
   "bLEFT LANE MERGEcPOINTING BACKHAND INDEXdINDEXbLEFT-POINTING POINTERcSMALL TRIANGLEcTRIANGLE",
   "bLOZENGE CONTAINING BLACK SMALL LOZENGEbMEDIUM DIAMONDcLOZENGEcSMALL SQUAREcSQUAREcSTAR",
   "bMOON SELENAbNIBbPARALLELOGRAMbPENNANTbPENTAGONbQUESTION MARK ORNAMENTbRECTANGLE",
   "bRIGHT POINTING BACKHAND INDEXdINDEXbRIGHT-POINTING PENTAGONcPOINTERcSMALL TRIANGLEcTRIANGLE",
   "bSCISSORSbSESAME DOTbSHOGI PIECEbSMALL LOZENGEcSQUAREcSTARbSMILING FACEbSPADE SUITbSQUARE",
   "cBUTTONcCONTAINING BLACK MEDIUM SQUAREeSMALL SQUAREeVERY SMALL SQUARE",
   "cWITH CENTRE VERTICAL LINEdLEFTWARDS TICKdLOWER LEFT QUADRANTeRIGHT QUADRANTdRIGHTWARDS TICK",
   "dROUNDED CORNERSdUPPER LEFT QUADRANTeRIGHT QUADRANTdVERTICAL BISECTING LINEbSTARbSUN",
   "cBEHIND CLOUDeWITH RAINcWITH RAYSdSMALL CLOUDbTELEPHONEbTOUCHTONE TELEPHONEbTRAPEZIUM",
   "bTRIANGLE CONTAINING SMALL WHITE TRIANGLEbTWO-WAY LEFT WAY TRAFFICbUP POINTING BACKHAND INDEX",
   "dINDEXbUP-POINTING CHEVRONcSMALL TRIANGLEcTRIANGLEdWITH DOTbVERTICAL BARcELLIPSEcRECTANGLE",
   "bVERY SMALL SQUAREaWHITE-FEATHERED RIGHTWARDS ARROWaWIDE-HEADED DOWNWARDS BARB ARROW",
   "cHEAVY BARB ARROWcLIGHT BARB ARROWcMEDIUM BARB ARROWcVERY HEAVY BARB ARROW",
   "bLEFTWARDS BARB ARROWcHEAVY BARB ARROWcLIGHT BARB ARROWcMEDIUM BARB ARROW",
   "cVERY HEAVY BARB ARROWbNORTH EAST BARB ARROWdHEAVY BARB ARROWdLIGHT BARB ARROW",
   "dMEDIUM BARB ARROWdVERY HEAVY BARB ARROWcWEST BARB ARROWdHEAVY BARB ARROWdLIGHT BARB ARROW",
   "dMEDIUM BARB ARROWdVERY HEAVY BARB ARROWbRIGHTWARDS BARB ARROWcHEAVY BARB ARROW",
   "cLIGHT BARB ARROWcMEDIUM BARB ARROWcVERY HEAVY BARB ARROWbSOUTH EAST BARB ARROW",
   "dHEAVY BARB ARROWdLIGHT BARB ARROWdMEDIUM BARB ARROWdVERY HEAVY BARB ARROWcWEST BARB ARROW",
   "dHEAVY BARB ARROWdLIGHT BARB ARROWdMEDIUM BARB ARROWdVERY HEAVY BARB ARROWbUPWARDS BARB ARROW",
   "cHEAVY BARB ARROWcLIGHT BARB ARROWcMEDIUM BARB ARROWcVERY HEAVY BARB ARROW",
   "aWIGGLY VERTICAL LINEaWILTED FLOWERaWIND BLOWING FACEbCHIMEaWINDOWaWINE GLASSaWINKING FACE",
   "aWIRED KEYBOARDaWJaWOLF FACEaWOMANbWITH BUNNY EARSaWOMANS BOOTSbCLOTHESbHATbSANDAL",
   "aWOMENS SYMBOLaWON SIGNaWOODaWORD JOINERbSEPARATOR MIDDLE DOTaWORLD MAPaWORMaWORRIED FACE",
   "aWRAPPED PRESENTaWREATH PRODUCTaWRENCHaWRESTLERSaWRITING HANDaX IN A RECTANGLE BOXaX-RAY",
   "aXIANGQI BLACK CANNONcCHARIOTcELEPHANTcGENERALcHORSEcMANDARINcSOLDIERbRED CANNONcCHARIOT",
   "cELEPHANTcGENERALcHORSEcMANDARINcSOLDIERaXORaYAWNING FACEaYELLOW HEARTaYEN SIGN",
   "aYEZIDI COMBINING HAMZA MARKcMADDA MARKbHYPHENATION MARKbLETTER BEcCHHIMcCHIMcCIMcDADcDALcELIF",
   "cETcEWcEYNcFAcGAFcHAYcHHAcJAcKAFcKHAFcLAMdWITH DOT ABOVEcMIMcNUNcOWcPEcPHEcQAFcRAcRHAcSADcSE",
   "cSHINcSINcTAcTHEcUMcVAdALTERNATE FORMcWAWcXAcXHEYNcYOTdWITH CIRCUMFLEX ABOVEcZAcZALcZE",
   "aYI RADICAL BBUTcBURcCHEcCIPcCUOPcCYcCYPcCYTcDDURcDUcGAcGEPcGGOPcGGUOcGOTcHMOcHXITcHXOPcHXUO",
   "cJJIEcJJUTcJJYcJOcKEcKITcLIcLIEcLYRcMIcMOPcNBIEcNYIPcNYOPcNZUPcOPcPUTcPYTcQOTcSHATcSHOPcSHUR",
   "cSHYcSSIcTATcTUcVEPcVURcWOcYITcYOcZAcZOTcZUPcZURcZZIETbSYLLABLE AcAPcATcAXcBAcBAPcBATcBAXcBBA",
   "cBBAPcBBATcBBAXcBBEcBBEPcBBEXcBBIcBBIEcBBIEPcBBIETcBBIEXcBBIPcBBITcBBIXcBBOcBBOPcBBOTcBBOXcBBU",
   "cBBUOcBBUOPcBBUOXcBBUPcBBURcBBURXcBBUTcBBUXcBBYcBBYPcBBYTcBBYXcBEcBEPcBEXcBIcBIEcBIEPcBIET",
   "cBIEXcBIPcBITcBIXcBOcBOPcBOTcBOXcBUcBUOcBUOPcBUOXcBUPcBURcBURXcBUTcBUXcBYcBYPcBYRcBYRXcBYTcBYX",
   "cCAcCAPcCATcCAXcCEcCEPcCEXcCHAcCHAPcCHATcCHAXcCHEcCHEPcCHETcCHEXcCHOcCHOPcCHOTcCHOXcCHUcCHUO",
   "cCHUOPcCHUOTcCHUOXcCHUPcCHURcCHURXcCHUXcCHYcCHYPcCHYRcCHYRXcCHYTcCHYXcCIcCIEcCIEPcCIETcCIEX",
   "cCIPcCITcCIXcCOcCOPcCOTcCOXcCUcCUOcCUOPcCUOXcCUPcCURcCURXcCUTcCUXcCYcCYPcCYRcCYRXcCYTcCYXcDA",
   "cDAPcDATcDAXcDDAcDDAPcDDATcDDAXcDDEcDDEPcDDEXcDDIcDDIEcDDIEPcDDIEXcDDIPcDDITcDDIXcDDOcDDOP",
   "cDDOTcDDOXcDDUcDDUOcDDUOPcDDUOXcDDUPcDDURcDDURXcDDUTcDDUXcDEcDEPcDEXcDIcDIEcDIEPcDIEXcDIPcDIT",
   "cDIXcDOcDOPcDOTcDOXcDUcDUOcDUOXcDUPcDURcDURXcDUTcDUXcEcEXcFAcFAPcFATcFAXcFIcFIPcFITcFIXcFOcFOP",
   "cFOXcFUcFUPcFURcFURXcFUTcFUXcFYcFYPcFYTcFYXcGAcGAPcGATcGAXcGEcGEPcGETcGEXcGGAcGGAPcGGATcGGAX",
   "cGGEcGGEPcGGETcGGEXcGGIcGGIEcGGIEPcGGIEXcGGITcGGIXcGGOcGGOPcGGOTcGGOXcGGUcGGUOcGGUOPcGGUOT",
   "cGGUOXcGGUPcGGURcGGURXcGGUTcGGUXcGIcGIEcGIEPcGIETcGIEXcGIPcGITcGIXcGOcGOPcGOTcGOXcGUcGUOcGUOP",
   "cGUOTcGUOXcGUPcGURcGURXcGUTcGUXcHAcHAPcHATcHAXcHEcHEPcHEXcHIEcHIEXcHITcHLAcHLAPcHLATcHLAXcHLE",
   "cHLEPcHLEXcHLIcHLIEcHLIEPcHLIEXcHLIPcHLITcHLIXcHLOcHLOPcHLOXcHLUcHLUOcHLUOPcHLUOXcHLUPcHLUR",
   "cHLURXcHLUTcHLUXcHLYcHLYPcHLYRcHLYRXcHLYTcHLYXcHMAcHMAPcHMATcHMAXcHMIcHMIEcHMIEPcHMIEXcHMIP",
   "cHMITcHMIXcHMOcHMOPcHMOTcHMOXcHMUcHMUOcHMUOPcHMUOXcHMUPcHMURcHMURXcHMUTcHMUXcHMYcHMYPcHMYR",
   "cHMYRXcHMYXcHNAcHNAPcHNATcHNAXcHNEcHNEPcHNEXcHNIcHNIEcHNIEPcHNIETcHNIEXcHNIPcHNITcHNIXcHNOP",
   "cHNOTcHNOXcHNUOcHNUOXcHNUTcHOcHOPcHOTcHOXcHUOcHUOPcHUOTcHUOXcHXAcHXAPcHXATcHXAXcHXEcHXEPcHXEX",
   "cHXIcHXIEcHXIEPcHXIETcHXIEXcHXIPcHXITcHXIXcHXOcHXOPcHXOTcHXOXcHXUOcHXUOPcHXUOTcHXUOXcIcIEcIEP",
   "cIETcIEXcIPcITcITERATION MARKcIXcJIcJIEcJIEPcJIETcJIEXcJIPcJITcJIXcJJIcJJIEcJJIEPcJJIETcJJIEX",
   "cJJIPcJJITcJJIXcJJOcJJOPcJJOTcJJOXcJJUcJJUOcJJUOPcJJUOXcJJUPcJJURcJJURXcJJUTcJJUXcJJYcJJYP",
   "cJJYTcJJYXcJOcJOPcJOTcJOXcJUcJUOcJUOPcJUOTcJUOXcJUPcJURcJURXcJUTcJUXcJYcJYPcJYRcJYRXcJYTcJYX",
   "cKAcKAPcKATcKAXcKEcKEPcKETcKEXcKIcKIEcKIEPcKIEXcKIPcKITcKIXcKOcKOPcKOTcKOXcKUcKUOcKUOPcKUOX",
   "cKUPcKURcKURXcKUTcKUXcLAcLAPcLATcLAXcLEcLEPcLEXcLIcLIEcLIEPcLIETcLIEXcLIPcLITcLIXcLOcLOPcLOT",
   "cLOXcLUcLUOcLUOPcLUOTcLUOXcLUPcLURcLURXcLUTcLUXcLYcLYPcLYRcLYRXcLYTcLYXcMAcMAPcMATcMAXcMEcMEX",
   "cMGAcMGAPcMGATcMGAXcMGEcMGEPcMGEXcMGIEcMGIEXcMGOcMGOPcMGOTcMGOXcMGUcMGUOcMGUOPcMGUOXcMGUPcMGUR",
   "cMGURXcMGUTcMGUXcMIcMIEcMIEPcMIEXcMIPcMITcMIXcMOcMOPcMOTcMOXcMUcMUOcMUOPcMUOTcMUOXcMUPcMUR",
   "cMURXcMUTcMUXcMYcMYPcMYTcMYXcNAcNAPcNAXcNBAcNBAPcNBATcNBAXcNBIcNBIEcNBIEPcNBIEXcNBIPcNBITcNBIX",
   "cNBOcNBOPcNBOTcNBOXcNBUcNBUPcNBURcNBURXcNBUTcNBUXcNBYcNBYPcNBYRcNBYRXcNBYTcNBYXcNDAcNDAPcNDAT",
   "cNDAXcNDEcNDEPcNDEXcNDIcNDIEcNDIEXcNDIPcNDITcNDIXcNDOcNDOPcNDOTcNDOXcNDUcNDUPcNDURcNDURXcNDUT",
   "cNDUXcNEcNEPcNEXcNGAcNGAPcNGATcNGAXcNGEcNGEPcNGEXcNGIEcNGIEPcNGIEXcNGOcNGOPcNGOTcNGOXcNGUO",
   "cNGUOTcNGUOXcNIcNIEcNIEPcNIEXcNIPcNITcNIXcNJIcNJIEcNJIEPcNJIETcNJIEXcNJIPcNJITcNJIXcNJOcNJOP",
   "cNJOTcNJOXcNJUcNJUOcNJUOXcNJUPcNJURcNJURXcNJUXcNJYcNJYPcNJYRcNJYRXcNJYTcNJYXcNOcNOPcNOTcNOX",
   "cNRAcNRAPcNRATcNRAXcNREcNREPcNRETcNREXcNROcNROPcNROXcNRUcNRUPcNRURcNRURXcNRUTcNRUXcNRYcNRYP",
   "cNRYRcNRYRXcNRYTcNRYXcNUcNUOcNUOPcNUOXcNUPcNURcNURXcNUTcNUXcNYIcNYIEcNYIEPcNYIETcNYIEXcNYIP",
   "cNYITcNYIXcNYOcNYOPcNYOTcNYOXcNYUcNYUOcNYUOPcNYUOXcNYUPcNYUTcNYUXcNZAcNZAPcNZATcNZAXcNZEcNZEX",
   "cNZIcNZIEcNZIEPcNZIEXcNZIPcNZITcNZIXcNZOPcNZOXcNZUcNZUOcNZUOXcNZUPcNZURcNZURXcNZUXcNZYcNZYP",
   "cNZYRcNZYRXcNZYTcNZYXcOcOPcOTcOXcPAcPAPcPATcPAXcPIcPIEcPIEPcPIEXcPIPcPITcPIXcPOcPOPcPOTcPOXcPU",
   "cPUOcPUOPcPUOXcPUPcPURcPURXcPUTcPUXcPYcPYPcPYRcPYRXcPYTcPYXcQIcQIEcQIEPcQIETcQIEXcQIPcQITcQIX",
   "cQOcQOPcQOTcQOXcQUcQUOcQUOPcQUOTcQUOXcQUPcQURcQURXcQUTcQUXcQYcQYPcQYRcQYRXcQYTcQYXcRAcRAPcRAT",
   "cRAXcREcREPcREXcROcROPcROTcROXcRRAcRRAXcRREcRREPcRRETcRREXcRROcRROPcRROTcRROXcRRUcRRUOcRRUOX",
   "cRRUPcRRURcRRURXcRRUTcRRUXcRRYcRRYPcRRYRcRRYRXcRRYTcRRYXcRUcRUOcRUOPcRUOXcRUPcRURcRURXcRUTcRUX",
   "cRYcRYPcRYRcRYRXcRYTcRYXcSAcSAPcSATcSAXcSEcSEPcSEXcSHAcSHAPcSHATcSHAXcSHEcSHEPcSHETcSHEXcSHO",
   "cSHOPcSHOTcSHOXcSHUcSHUOcSHUOPcSHUOXcSHUPcSHURcSHURXcSHUTcSHUXcSHYcSHYPcSHYRcSHYRXcSHYTcSHYX",
   "cSIcSIEcSIEPcSIEXcSIPcSITcSIXcSOcSOPcSOTcSOXcSSAcSSAPcSSATcSSAXcSSEcSSEPcSSEXcSSIcSSIEcSSIEP",
   "cSSIEXcSSIPcSSITcSSIXcSSOcSSOPcSSOTcSSOXcSSUcSSUPcSSUTcSSUXcSSYcSSYPcSSYRcSSYRXcSSYTcSSYXcSU",
   "cSUOcSUOPcSUOXcSUPcSURcSURXcSUTcSUXcSYcSYPcSYRcSYRXcSYTcSYXcTAcTAPcTATcTAXcTEcTEPcTEXcTIcTIE",
   "cTIEPcTIEXcTIPcTITcTIXcTOcTOPcTOTcTOXcTUcTUOcTUOPcTUOTcTUOXcTUPcTURcTURXcTUTcTUXcUOcUOPcUOXcVA",
   "cVAPcVATcVAXcVEPcVEXcVIcVIEcVIEPcVIETcVIEXcVIPcVITcVIXcVOcVOPcVOTcVOXcVUcVUPcVURcVURXcVUTcVUX",
   "cVYcVYPcVYRcVYRXcVYTcVYXcWAcWAPcWATcWAXcWEcWEPcWEXcWOcWOPcWOXcWUcWUOcWUOPcWUOXcXIcXIEcXIEP",
   "cXIETcXIEXcXIPcXITcXIXcXOcXOPcXOTcXOXcXUOcXUOXcXYcXYPcXYRcXYRXcXYTcXYXcYIcYIEcYIEPcYIETcYIEX",
   "cYIPcYITcYIXcYOcYOPcYOTcYOXcYUcYUOcYUOPcYUOTcYUOXcYUPcYURcYURXcYUTcYUXcYYcYYPcYYRcYYRXcYYTcYYX",
   "cZAcZAPcZATcZAXcZEcZEPcZEXcZHAcZHAPcZHATcZHAXcZHEcZHEPcZHETcZHEXcZHOcZHOPcZHOTcZHOXcZHUcZHUO",
   "cZHUOPcZHUOXcZHUPcZHURcZHURXcZHUTcZHUXcZHYcZHYPcZHYRcZHYRXcZHYTcZHYXcZIcZIEcZIEPcZIEXcZIPcZIT",
   "cZIXcZOcZOPcZOTcZOXcZUcZUOcZUOPcZUOXcZUPcZURcZURXcZUTcZUXcZYcZYPcZYRcZYRXcZYTcZYXcZZAcZZAP",
   "cZZATcZZAXcZZEcZZEPcZZEXcZZIcZZIEcZZIEPcZZIETcZZIEXcZZIPcZZITcZZIXcZZOcZZOPcZZOXcZZUcZZUPcZZUR",
   "cZZURXcZZUXcZZYcZZYPcZZYRcZZYRXcZZYTcZZYXaYIN YANGaYO-YOaZ NOTATION BAG MEMBERSHIP",
   "cDOMAIN ANTIRESTRICTIONcLEFT BINDING BRACKETdIMAGE BRACKETcRANGE ANTIRESTRICTION",
   "cRELATIONAL COMPOSITIONcRIGHT BINDING BRACKETdIMAGE BRACKETcSCHEMA COMPOSITIONdPIPING",
   "dPROJECTIONcSPOTcTYPE COLONaZANABAZAR SQUARE CLOSING DOUBLE-LINED HEAD MARKdHEAD MARK",
   "cCLUSTER-FINAL LETTER LAeRAeVAeYAcCLUSTER-INITIAL LETTER RAcFINAL CONSONANT MARK",
   "cINITIAL DOUBLE-LINED HEAD MARKdHEAD MARKcLETTER -AdAdBAdBHAdCAdCHAdDAdDDAdDDHAdDHAdDZAdDZHA",
   "dGAdGHAdHAdJAdKAdKHAdKSSAdLAdMAdNAdNGAdNNAdNYAdPAdPHAdRAdSAdSHAdSSAdTAdTHAdTSAdTSHAdTTAdTTHA",
   "dVAdYAdZAdZHAcMARK DOUBLE SHADdLONG TSHEGdSHADdTSHEGcSIGN ANUSVARAdCANDRA WITH ORNAMENT",
   "dCANDRABINDUeWITH ORNAMENTdVIRAMAdVISARGAcSUBJOINERcVOWEL LENGTH MARKdSIGN AIeAUeEeIeOeOE",
   "eREVERSED IeUeUEaZEBRA FACEaZERO WIDTH JOINERcNO-BREAK SPACEcNON-JOINERcSPACEaZEUS",
   "aZIPPER-MOUTH FACEaZNAMENNY COMBINING ATTACHING VERTICAL OMETcLOWER TONAL RANGE INDICATOR",
   "cMARK BORZAYAdCHASHKAePOLNAYAdCURVED OMETdDEMESTVENNY ZADERZHKAdDVOETOCHIE",
   "dGORAZDO NIZKO ON LEFTgRIGHTfS KRYZHEM ON LEFTiRIGHTeVYSOKOdKACHKAdKRYZHeON LEFTdKUPNAYAdLOMKA",
   "dMALO POVYSHE ON LEFTgRIGHTfS KHOKHLOM ON LEFTiRIGHTgKRYZHEMfSTRANNOdNIZKO ON LEFTfRIGHT",
   "eS KRYZHEM ON LEFThRIGHTdOBLACHKOdONdOTSECHKAdPODCHASHIEeWITH VERTICAL STROKEdPODVERTKA",
   "dPOVYSHE ON LEFTfRIGHTeS KHOKHLOM ON LEFThRIGHTfKRYZHEMeSTRANNOdRAVNOdRAZSEKAdSKOBA",
   "dSOROCHYA NOZHKAdSREDNE ON LEFTfRIGHTdSTRANNO MALO POVYSHEdTIKHAYAdTOCHKAdTSATA ON LEFTfRIGHT",
   "eS KRYZHEMdUDARKAdVYSOKO ON LEFTfRIGHTeS KHOKHLOM ON LEFThRIGHTfKRYZHEMdZADERZHKAdZELOdZEVOK",
   "cTONAL RANGE MARK MRACHNOfSVETLOfTRESVETLObNEUME CHASHKAcCHELYUSTKAcDEMESTVENNY KLYUCH",
   "cDERBITSAcDOUBLE ZAPYATAYAcDUDAcDVA V CHELNUcFITAcGOLUBCHIK BORZYdMRACHNYdSVETLYdTIKHY",
   "dTRESVETLYcKHAMILOcKLYUCHcKOBYLAcKRYUKdTIKHYcKRYZHcKUFISMAcMECHIKdKLYUCHENEPOSTOYANNY",
   "dKLYUCHEPOVODNYdKLYUCHEVOYdPOVODNYcNEMKAcOBLAKOcOSOKAdKLYUCHEVAYA NEPOSTOYANNAYAeSVETLAYA",
   "dKRYUKOVAYA SVETLAYAdSVETLAYAdTRESVETLAYAcPALKAcPARAKLITcPAUKcPEREVODKAdNEPOSTOYANNAYA",
   "cPODCHASHIEcPOLKULIZMYcREVERSED CHELYUSTKAcROGcSKAMEYTSA DVOECHELNAYA KLYUCHEVAYA",
   "eNEPOSTOYANNAYAePROSTAYAeSVETLAYAdKLYUCHENEPOSTOYANNAYAdKLYUCHEVAYA SVETLAYAeTIKHAYAdMRACHNAYA",
   "dSVETLAYAdTIKHAYAdTRESVETLAYAcSLOZHITIEdS KRYZHEMeZAPYATOYdZAKRYTOEcSTATYAdNEPOSTOYANNAYA",
   "dS DVUMYA ZAPYATYMIeKRYZHEMfI ZAPYATOYeROGOMeZAPYATOYfI KRYZHEMgPODCHASHIEMdZAKRYTAYA",
   "eS ZAPYATOYcSTOPITSAdS OCHKOMdWITH SOROCHYA NOZHKAcSTRELA DVOECHELNAYAeKLYUCHEVAYA",
   "dDVOECHELNOKRYZHEVAYAdDVOECHELNOPOVODNAYAeKLYUCHEVAYAdGROMNAYAeWITH SINGLE ZAPYATAYA",
   "dGROMOKRYZHEVAYAePOVODNAYAdGROMOPOVODNAYAeWITH DOUBLE ZAPYATAYAfSINGLE ZAPYATAYA",
   "dKLYUCHENEPOSTOYANNAYAdKLYUCHEPOVODNAYAdKRYUKOVAYAeGROMNAYAfWITH SINGLE ZAPYATAYA",
   "eGROMOKRYZHEVAYAfPOVODNAYAeGROMOPOVODNAYAfWITH DOUBLE ZAPYATAYAgSINGLE ZAPYATAYAePOVODNAYA",
   "eTRYASKAdKRYZHEVAYAdMRACHNOTIKHAYAdNEPOSTOYANNAYAdPOLUPOVODNAYAdPOVODNAYAdPROSTAYA",
   "dTIKHAYA PUTNAYAdTRYASOGLASNAYAdTRYASOPOVODNAYAdTRYASOSTRELNAYAcVRAKHIYA KLYUCHEVAYA MRACHNAYA",
   "ePROSTAYAeSVETLAYAeTRESVETLAYAdMRACHNAYAdPROSTAYAdSVETLAYAdTRESVETLAYAcZANOZHEKcZAPYATAYA",
   "cZMEYTSAbPRIZNAK MODIFIER DIRECTION FLIPdKRYZHdLEVEL-2dLEVEL-3dROGaZOMBIEaZWJaZWNBSPaZWNJaZWSP"]

end TapeMachine.Text
