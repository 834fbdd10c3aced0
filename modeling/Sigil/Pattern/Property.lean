import Sigil.Pattern.Tree

/-! # Unicode properties

    The names by which a pattern can refer to Unicode properties, general
    categories and scripts, and the values of those properties that have
    values.  Names are compared loosely: without regard to case, spaces,
    underscores, dashes and a leading `is`. -/

namespace Sigil.Pattern

/-- The words of a text. -/
def words (s : String) : List Text :=
  s.toList.splitOn ' '

/-- A name without case, spaces, underscores, dashes, a leading `is` and
    everything beyond ASCII.  The name `isc` is kept, as it is no name with a
    prefix. -/
def looseName (name : Text) : Text :=
  let isPrefixed := ["is".toList, "IS".toList, "iS".toList, "Is".toList].contains (name.take 2)
  let kept := (if isPrefixed then name.drop 2 else name).filter fun c =>
    c != ' ' && c != '_' && c != '-' && c.toNat < 0x80
  let lower := kept.map Char.toLower
  if isPrefixed && lower = ['c'] then "isc".toList else lower

/-- Properties that a character has or has not. -/
def binaryProperties : List Text := words (
    "ahex asciihexdigit alpha alphabetic bidic bidicontrol bidim bidimirrored cased ci "
    ++ "caseignorable cwcf changeswhencasefolded cwcm changeswhencasemapped cwl "
    ++ "changeswhenlowercased cwt changeswhentitlecased cwu changeswhenuppercased dash dep "
    ++ "deprecated di defaultignorablecodepoint dia diacritic ebase emojimodifierbase ecomp "
    ++ "emojicomponent emod emojimodifier emoji epres emojipresentation ext extender extpict "
    ++ "extendedpictographic grbase graphemebase grext graphemeextend grlink graphemelink "
    ++ "hex hexdigit hyphen idcompatmathcontinue idcompatmathstart idc idcontinue ideo "
    ++ "ideographic ids idstart idsb idsbinaryoperator idst idstrinaryoperator idsu "
    ++ "idsunaryoperator joinc joincontrol loe logicalorderexception lower lowercase math "
    ++ "mcm modifiercombiningmark nchar noncharactercodepoint oalpha otheralphabetic odi "
    ++ "otherdefaultignorablecodepoint ogrext othergraphemeextend oidc otheridcontinue oids "
    ++ "otheridstart olower otherlowercase omath othermath oupper otheruppercase patsyn "
    ++ "patternsyntax patws patternwhitespace pcm prependedconcatenationmark qmark "
    ++ "quotationmark radical ri regionalindicator sd softdotted sterm sentenceterminal term "
    ++ "terminalpunctuation uideo unifiedideograph upper uppercase vs variationselector "
    ++ "wspace whitespace space xidc xidcontinue xids xidstart")

/-- The general categories. -/
def generalCategories : List Text := words (
    "c other cc control cntrl cf format cn unassigned co privateuse l letter lc "
    ++ "casedletter ll lowercaseletter lm modifierletter lo otherletter lt titlecaseletter "
    ++ "lu uppercaseletter m mark combiningmark mc spacingmark me enclosingmark mn "
    ++ "nonspacingmark n number nd decimalnumber digit nl letternumber no othernumber p "
    ++ "punctuation punct pc connectorpunctuation pd dashpunctuation pe closepunctuation pf "
    ++ "finalpunctuation pi initialpunctuation po otherpunctuation ps openpunctuation s "
    ++ "symbol sc currencysymbol sk modifiersymbol sm mathsymbol so othersymbol z separator "
    ++ "zl lineseparator zp paragraphseparator zs spaceseparator any assigned ascii")

/-- The scripts that have characters. -/
def scripts : List Text := words (
    "adlm adlam aghb caucasianalbanian ahom arab arabic armi imperialaramaic armn "
    ++ "armenian avst avestan bali balinese bamu bamum bass bassavah batk batak beng bengali "
    ++ "bhks bhaiksuki bopo bopomofo brah brahmi brai braille bugi buginese buhd buhid cakm "
    ++ "chakma cans canadianaboriginal cari carian cham cher cherokee chrs chorasmian copt "
    ++ "coptic qaac cpmn cyprominoan cprt cypriot cyrl cyrillic deva devanagari diak "
    ++ "divesakuru dogr dogra dsrt deseret dupl duployan egyp egyptianhieroglyphs elba "
    ++ "elbasan elym elymaic ethi ethiopic gara garay geor georgian glag glagolitic gong "
    ++ "gunjalagondi gonm masaramgondi goth gothic gran grantha grek greek gujr gujarati "
    ++ "gukh gurungkhema guru gurmukhi hang hangul hani han hano hanunoo hatr hatran hebr "
    ++ "hebrew hira hiragana hluw anatolianhieroglyphs hmng pahawhhmong hmnp "
    ++ "nyiakengpuachuehmong hung oldhungarian ital olditalic java javanese kali kayahli "
    ++ "kana katakana kawi khar kharoshthi khmr khmer khoj khojki kits khitansmallscript "
    ++ "knda kannada krai kiratrai kthi kaithi lana taitham laoo lao latn latin lepc lepcha "
    ++ "limb limbu lina lineara linb linearb lisu lyci lycian lydi lydian mahj mahajani maka "
    ++ "makasar mand mandaic mani manichaean marc marchen medf medefaidrin mend mendekikakui "
    ++ "merc meroiticcursive mero meroitichieroglyphs mlym malayalam modi mong mongolian "
    ++ "mroo mro mtei meeteimayek mult multani mymr myanmar nagm nagmundari nand nandinagari "
    ++ "narb oldnortharabian nbat nabataean newa nkoo nko nshu nushu ogam ogham olck olchiki "
    ++ "onao olonal orkh oldturkic orya oriya osge osage osma osmanya ougr olduyghur palm "
    ++ "palmyrene pauc paucinhau perm oldpermic phag phagspa phli inscriptionalpahlavi phlp "
    ++ "psalterpahlavi phnx phoenician plrd miao prti inscriptionalparthian rjng rejang rohg "
    ++ "hanifirohingya runr runic samr samaritan sarb oldsoutharabian saur saurashtra sgnw "
    ++ "signwriting shaw shavian shrd sharada sidd siddham sind khudawadi sinh sinhala sogd "
    ++ "sogdian sogo oldsogdian sora sorasompeng soyo soyombo sund sundanese sunu sunuwar "
    ++ "sylo sylotinagri syrc syriac tagb tagbanwa takr takri tale taile talu newtailue taml "
    ++ "tamil tang tangut tavt taiviet telu telugu tfng tifinagh tglg tagalog thaa thaana "
    ++ "thai tibt tibetan tirh tirhuta tnsa tangsa todr todhri toto tutg tulutigalari ugar "
    ++ "ugaritic vaii vai vith vithkuqi wara warangciti wcho wancho xpeo oldpersian xsux "
    ++ "cuneiform yezi yezidi yiii yi zanb zanabazarsquare zinh inherited qaai zyyy common")

/-- A general category and the scripts that have no characters. -/
def emptyValues : List Text := words "cs surrogate hrkt katakanaorhiragana zzzz unknown"

/-- Properties none of whose values can be asked for. -/
def otherProperties : List Text := words (
    "ce compositionexclusion compex fullcompositionexclusion cwkcf "
    ++ "changeswhennfkccasefolded xonfc expandsonnfc xonfd expandsonnfd xonfkc expandsonnfkc "
    ++ "xonfkd expandsonnfkd cjkaccountingnumeric kaccountingnumeric cjkothernumeric "
    ++ "kothernumeric cjkprimarynumeric kprimarynumeric nv numericvalue bmg "
    ++ "bidimirroringglyph bpb bidipairedbracket cf casefolding cjkcompatibilityvariant "
    ++ "kcompatibilityvariant dm decompositionmapping equideo equivalentunifiedideograph "
    ++ "fcnfkc fcnfkcclosure lc lowercasemapping nfkccf nfkccasefold nfkcscf "
    ++ "nfkcsimplecasefold scf simplecasefolding sfc slc simplelowercasemapping stc "
    ++ "simpletitlecasemapping suc simpleuppercasemapping tc titlecasemapping uc "
    ++ "uppercasemapping cjkiicore kiicore cjkirggsource kirggsource cjkirghsource "
    ++ "kirghsource cjkirgjsource kirgjsource cjkirgkpsource kirgkpsource cjkirgksource "
    ++ "kirgksource cjkirgmsource kirgmsource cjkirgssource kirgssource cjkirgtsource "
    ++ "kirgtsource cjkirguksource kirguksource cjkirgusource kirgusource cjkirgvsource "
    ++ "kirgvsource cjkrsunicode krsunicode unicoderadicalstroke urs ocomment jsn "
    ++ "jamoshortname na name na1 unicode1name namealias blk block bc bidiclass bpt "
    ++ "bidipairedbrackettype ccc canonicalcombiningclass dt decompositiontype ea "
    ++ "eastasianwidth hst hangulsyllabletype incb indicconjunctbreak inpc "
    ++ "indicpositionalcategory insc indicsyllabiccategory jg joininggroup jt joiningtype lb "
    ++ "linebreak nfcqc nfcquickcheck nfdqc nfdquickcheck nfkcqc nfkcquickcheck nfkdqc "
    ++ "nfkdquickcheck nt numerictype vo verticalorientation isc")

/-- The values of the property `Age`. -/
def ageValues : List Text := words (
    "1.1 v11 2.0 v20 2.1 v21 3.0 v30 3.1 v31 3.2 v32 4.0 v40 4.1 v41 5.0 v50 5.1 v51 5.2 "
    ++ "v52 6.0 v60 6.1 v61 6.2 v62 6.3 v63 7.0 v70 8.0 v80 9.0 v90 10.0 v100 11.0 v110 12.0 "
    ++ "v120 12.1 v121 13.0 v130 14.0 v140 15.0 v150 15.1 v151 16.0 v160")

/-- The values of the property `Grapheme_Cluster_Break`. -/
def graphemeClusterBreakValues : List Text := words (
    "cn control cr ex extend l lf lv lvt pp prepend ri regionalindicator sm spacingmark t "
    ++ "v zwj")

/-- The values of the property `Sentence_Break`. -/
def sentenceBreakValues : List Text := words (
    "at aterm cl close cr ex extend fo format le oletter lf lo lower nu numeric sc "
    ++ "scontinue se sep sp st sterm up upper")

/-- The values of the property `Word_Break`. -/
def wordBreakValues : List Text := words (
    "cr dq doublequote ex extendnumlet extend fo format hl hebrewletter ka katakana le "
    ++ "aletter lf mb midnumlet ml midletter mn midnum nl newline nu numeric ri "
    ++ "regionalindicator sq singlequote wsegspace zwj")

/-- The properties with values, under all of their names, and their values. -/
def valuedProperties : List (List Text × List Text) :=
  [(words "gc generalcategory", generalCategories),
   (words "sc script", scripts),
   (words "scx scriptextensions", scripts),
   (words "age", ageValues),
   (words "gcb graphemeclusterbreak", graphemeClusterBreakValues),
   (words "sb sentencebreak", sentenceBreakValues),
   (words "wb wordbreak", wordBreakValues)]

/-- Is this the name of a property with values? -/
def valuesOf? (name : Text) : Option (List Text) :=
  (valuedProperties.find? fun (names, _) => names.contains name).map Prod.snd

/-- The names that are first of all names of a general category, although a
    property without a use in patterns has them too. -/
def categoryFirst : List Text := words "cf sc lc"

namespace PropertyQuery

/-- What is wrong with a query, if anything is. -/
def cause? : PropertyQuery → Option Cause
  | named name =>
    let name := looseName name
    if !categoryFirst.contains name && binaryProperties.contains name then none
    else if !categoryFirst.contains name
        && (otherProperties.contains name || (valuesOf? name).isSome) then
      some .unicodePropertyNotFound
    else if generalCategories.contains name || scripts.contains name then none
    else if emptyValues.contains name then some .unicodePropertyValueNotFound
    else some .unicodePropertyNotFound
  | valued name value =>
    let name := looseName name
    match valuesOf? name with
    | some values =>
      if values.contains (looseName value) then none else some .unicodePropertyValueNotFound
    | none =>
      if binaryProperties.contains name || otherProperties.contains name then
        some .unicodePropertyValueNotFound
      else some .unicodePropertyNotFound

end PropertyQuery

end Sigil.Pattern
