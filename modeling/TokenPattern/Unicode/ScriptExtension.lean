import TokenPattern.Unicode.Script

/-!
# The scripts that use a character

Some characters are shared by several scripts, whatever script they are assigned to.
`scriptsUsing` lists the scripts that use a character, by abbreviation; for most it is the script of
the character and no other.
-/

namespace TokenPattern.Unicode

/-- Divides a run of abbreviations, four letters each. -/
def abbreviations : List Char → List String
  | a :: b :: c :: d :: rest => String.ofList [a, b, c, d] :: abbreviations rest
  | _ => []

/-- The stretches of code points with scripts of their own: the abbreviations, one after the other.
A stretch without any is marked "Own". -/
def extensionTable : RunTable (List String) := RunTable.ofText
    (fun name => abbreviations name.toList)
    "0Own b7AvstCariCoptDuplElbaGeorGlagGongGothGrekHaniLatnLydiMahjPermShaw b8Own
    2bcBengCyrlDevaLatnLisuThaiToto 2bdOwn 2c7BopoLatn 2c8Own 2c9BopoLatn 2ccOwn 2cdLatnLisu 2ceOwn
    2d7LatnThai 2d8Own 2d9BopoLatn 2daOwn 300CherCoptCyrlGrekLatnPermSunuTale
    301CherCyrlGrekLatnOsgeSunuTaleTodr 302CherCyrlLatnTfng 303GlagLatnSunuSyrcThai
    304AghbCherCoptCyrlGothGrekLatnOsgeSyrcTfngTodr 305CoptElbaGlagGothKanaLatn 306CyrlGrekLatnPerm
    307CoptDuplHebrLatnPermSyrcTaleTfngTodr 308ArmnCyrlDuplGothGrekHebrLatnPermSyrcTale 309LatnTfng
    30aDuplLatnSyrc 30bCherCyrlLatnOsge 30cCherLatnTale 30dLatnSunu 30eEthiLatn 30fOwn 310LatnSunu
    311CyrlLatnTodr 312Own 313GrekLatnPermTodr 314Own 320LatnSyrc 321Own 323CherDuplKanaLatnSyrc
    324CherDuplLatnSyrc 325LatnSyrc 326Own 32dLatnSunuSyrc 32eLatnSyrc 32fOwn 330CherLatnSyrc
    331AghbCherGothLatnSunuThai 332Own 342Grek 343Own 345Grek 346Own 358LatnOsge 359Own
    35eAghbLatnTodr 35fOwn 363Latn 370Own 374CoptGrek 376Own 483CyrlPerm 484CyrlGlag 485CyrlLatn
    487CyrlGlag 488Own 589ArmnGeorGlag 58aOwn 60cArabGaraNkooRohgSyrcThaaYezi 60dOwn
    61bArabGaraNkooRohgSyrcThaaYezi 61cArabSyrcThaa 61dOwn 61fAdlmArabGaraNkooRohgSyrcThaaYezi
    620Own 640AdlmArabMandManiOugrPhlpRohgSogdSyrc 641Own 64bArabSyrc 656Own 660ArabThaaYezi 66aOwn
    670ArabSyrc 671Own 6d4ArabRohg 6d5Own 951BengDevaGranGujrGuruKndaLatnMlymOryaShrdTamlTeluTirh
    952BengDevaGranGujrGuruKndaLatnMlymOryaTamlTeluTirh 953Own
    964BengDevaDogrGongGonmGranGujrGuruKndaMahjMlymNandOnaoOryaSindSinhSyloTakrTamlTeluTirh
    965BengDevaDogrGongGonmGranGujrGukhGuruKndaLimbMahjMlymNandOnaoOryaSindSinhSyloTakrTamlTeluTirh
    966DevaDogrKthiMahj 970Own 9e6BengCakmSylo 9f0Own a66GuruMult a70Own ae6GujrKhoj af0Own
    be6GranTaml bf4Own ce6KndaNandTutg cf0Own 1040CakmMymrTale 104aOwn 10fbGeorGlagLatn 10fcOwn
    16ebRunr 16eeOwn 1735BuhdHanoTagbTglg 1737Own 1802MongPhag 1804Own 1805MongPhag 1806Own
    1cd0BengDevaGranKnda 1cd1Deva 1cd2BengDevaGranKnda 1cd3DevaGranKnda 1cd4Deva 1cd5BengDeva
    1cd7DevaShrd 1cd8BengDeva 1cd9DevaShrd 1cdaDevaKndaMlymOryaTamlTelu 1cdbDeva 1cdcDevaShrd
    1cdeDeva 1ce0DevaShrd 1ce1BengDeva 1ce2Deva 1ce9DevaNand 1ceaBengDeva 1cebDeva 1cedBengDeva
    1ceeDeva 1cf2BengDevaGranKndaMlymNandOryaSinhTeluTirhTutg 1cf3DevaGran 1cf4DevaGranKndaTutg
    1cf5BengDeva 1cf7Beng 1cf8DevaGran 1cfaNand 1cfbOwn 1dc0Grek 1dc2Own 1df8CyrlLatnSyrc 1df9Own
    1dfaSyrc 1dfbOwn 202fLatnMongPhag 2030Own 204fAdlmArab 2050Own 205aCariGeorGlagHungLyciOrkh
    205bOwn 205dCariGrekHungMero 205eOwn 20f0DevaGranLatn 20f1Own 2e17CoptLatn 2e18Own 2e30AvstOrkh
    2e31AvstCariGeorHungKthiLydiSamr 2e32Own 2e3cDupl 2e3dOwn 2e41AdlmArabHung 2e42Own 2e43CyrlGlag
    2e44Own 2ff0HaniTang 3000Own 3001BopoHangHaniHiraKanaMongYiii
    3002BopoHangHaniHiraKanaMongPhagYiii 3003BopoHangHaniHiraKana 3004Own 3006Hani 3007Own
    3008BopoHangHaniHiraKanaMongTibtYiii 300aBopoHangHaniHiraKanaLisuMongTibtYiii
    300cBopoHangHaniHiraKanaYiii 3012Own 3013BopoHangHaniHiraKana 3014BopoHangHaniHiraKanaYiii
    301cBopoHangHaniHiraKana 3020Own 302aBopoHani 302eOwn 3030BopoHangHaniHiraKana 3031HiraKana
    3036Own 3037BopoHangHaniHiraKana 3038Own 303cHaniHiraKana 303eHani 3040Own 3099HiraKana 309dOwn
    30a0HiraKana 30a1Own 30fbBopoHangHaniHiraKanaYiii 30fcHiraKana 30fdOwn 3190Hani 31a0Own
    31c0Hani 31e6Own 31efHaniTang 31f0Own 3220Hani 3248Own 3280Hani 32b1Own 32c0Hani 32ccOwn
    32ffHani 3300Own 3358Hani 3371Own 337bHani 3380Own 33e0Hani 33ffOwn a66fCyrlGlag a670Own
    a700HaniLatn a708Own a830DevaDogrGujrGuruKhojKndaKthiMahjMlymModiNandShrdSindTakrTirhTutg
    a833DevaDogrGujrGuruKhojKndaKthiMahjModiNandShrdSindTakrTirhTutg
    a836DevaDogrGujrGuruKhojKthiMahjModiSindTakrTirh
    a838DevaDogrGujrGuruKhojKthiMahjModiShrdSindTakrTirh
    a839DevaDogrGujrGuruKhojKthiMahjModiSindTakrTirh a83aOwn a8f1BengDevaTutg a8f2Own a8f3DevaTaml
    a8f4Own a92eKaliLatnMymr a92fOwn a9cfBugiJava a9d0Own fd3eArabNkoo fd40Own fdf2ArabThaa fdf3Own
    fdfdArabThaa fdfeOwn fe45BopoHangHaniHiraKana fe47Own ff61BopoHangHaniHiraKanaYiii ff66Own
    ff70HiraKana ff71Own ff9eHiraKana ffa0Own 10100CpmnCprtLinb 10102CprtLinb 10103Own
    10107CprtLinaLinb 10134Own 10137CprtLinb 10140Own 102e0ArabCopt 102fcOwn 10af2ManiOugr 10af3Own
    11301GranTaml 11302Own 11303GranTaml 11304Own 1133bGranTaml 1133dOwn 11fd0GranTaml 11fd2Own
    11fd3GranTaml 11fd4Own 1bca0Dupl 1bca4Own 1d360Hani 1d372Own 1f250Hani 1f252Own"

/-- The abbreviations of the scripts that use a character. -/
def scriptsUsing (c : Char) : List String :=
  match extensionTable.lookup c.toNat with
  | [] => [scriptOf c]
  | shared => shared

end TokenPattern.Unicode
