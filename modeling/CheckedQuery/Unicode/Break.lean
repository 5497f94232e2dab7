import CheckedQuery.Unicode.Property

/-!
# Kinds of characters at boundaries

The values of the properties that decide where a grapheme cluster, a word or a
sentence of a text ends.  A kind that follows general categories and properties is
given by these and by what differs.
-/

namespace CheckedQuery.Unicode

/-- A kind: the general categories and properties it follows, those that keep a code
point out of it, the code points it has beyond that, and those that it lacks. -/
structure BreakKind where
  names : List String
  follows : List String
  without : List String
  added : List String
  removed : List String

/-- Kinds of characters for the boundaries of grapheme clusters. -/
def graphemeBreaks : List BreakKind := [
  { names := ["cr"]
    follows := []
    without := []
    added := ["D"]
    removed := [] },
  { names := ["cn", "control"]
    follows := ["cc", "cf", "zl", "zp"]
    without := []
    added := ["2065 FFF0-FFF8 E0000 E0002-E001F E0080-E00FF E01F0-E0FFF"]
    removed := ["A D 600-605 6DD 70F 890-891 8E2 200C-200D 110BD 110CD E0020-E007F"] },
  { names := ["ex", "extend"]
    follows := ["grext", "emod"]
    without := []
    added := []
    removed := [] },
  { names := ["l"]
    follows := []
    without := []
    added := ["1100-115F A960-A97C"]
    removed := [] },
  { names := ["lf"]
    follows := []
    without := []
    added := ["A"]
    removed := [] },
  { names := ["lv"]
    follows := []
    without := []
    added := ["AC00-D788/1C"]
    removed := [] },
  { names := ["lvt"]
    follows := []
    without := []
    added := ["AC00-D7A3"]
    removed := ["AC00-D788/1C"] },
  { names := ["pp", "prepend"]
    follows := ["pcm"]
    without := []
    added := ["D4E 111C2-111C3 113D1 1193F 11941 11A3A 11A84-11A89 11D46 11F02"]
    removed := [] },
  { names := ["ri", "regionalindicator"]
    follows := []
    without := []
    added := ["1F1E6-1F1FF"]
    removed := [] },
  { names := ["sm", "spacingmark"]
    follows := ["mc"]
    without := ["grext"]
    added := ["E33 EB3"]
    removed := [
      "102B-102C 1038 1062-1064 1067-106D 1083 1087-108C 108F 109A-109C 1A61 1A63-1A64",
      "AA7B AA7D 11720-11721"] },
  { names := ["t"]
    follows := []
    without := []
    added := ["11A8-11FF D7CB-D7FB"]
    removed := [] },
  { names := ["v"]
    follows := []
    without := []
    added := ["1160-11A7 D7B0-D7C6 16D63 16D67-16D6A"]
    removed := [] },
  { names := ["zwj"]
    follows := []
    without := []
    added := ["200D"]
    removed := [] }]

/-- Kinds of characters for the boundaries of words. -/
def wordBreaks : List BreakKind := [
  { names := ["le", "aletter"]
    follows := ["alpha"]
    without := ["ideo", "grext", "mc"]
    added := [
      "2C2-2C5 2D2-2D7 2DE-2DF 2E5-2EB 2ED 2EF-2FF 55A-55C 55E 58A 5F3 70F A708-A716",
      "A720-A721 A789-A78A AB5B"]
    removed := [
      "5D0-5EA 5EF-5F2 E01-E30 E32-E33 E40-E46 E81-E82 E84 E86-E8A E8C-EA3 EA5 EA7-EB0",
      "EB2-EB3 EBD EC0-EC4 EC6 EDC-EDF 1000-102A 103F 1050-1055 105A-105D 1061 1065-1066",
      "106E-1070 1075-1081 108E 1780-17B3 17D7 17DC 1950-196D 1970-1974 1980-19AB",
      "19B0-19C9 1A20-1A54 1AA7 3031-3035 3041-3096 309D-309F 30A1-30FA 30FC-30FF",
      "31F0-31FF A9E0-A9E4 A9E6-A9EF A9FA-A9FE AA60-AA76 AA7A AA7E-AAAF AAB1 AAB5-AAB6",
      "AAB9-AABD AAC0 AAC2 AADB-AADD FB1D FB1F-FB28 FB2A-FB36 FB38-FB3C FB3E FB40-FB41",
      "FB43-FB44 FB46-FB4F FF66-FF9D 11700-1171A 11740-11746 1AFF0-1AFF3 1AFF5-1AFFB",
      "1AFFD-1AFFE 1B000-1B122 1B132 1B150-1B152 1B155 1B164-1B167"] },
  { names := ["cr"]
    follows := []
    without := []
    added := ["D"]
    removed := [] },
  { names := ["dq", "doublequote"]
    follows := []
    without := []
    added := ["22"]
    removed := [] },
  { names := ["extend"]
    follows := ["mc", "grext", "emod"]
    without := []
    added := []
    removed := [] },
  { names := ["ex", "extendnumlet"]
    follows := ["pc"]
    without := []
    added := ["202F"]
    removed := [] },
  { names := ["fo", "format"]
    follows := ["cf"]
    without := []
    added := []
    removed := ["600-605 6DD 70F 890-891 8E2 200B-200D 110BD 110CD E0020-E007F"] },
  { names := ["hl", "hebrewletter"]
    follows := []
    without := []
    added := [
      "5D0-5EA 5EF-5F2 FB1D FB1F-FB28 FB2A-FB36 FB38-FB3C FB3E FB40-FB41 FB43-FB44",
      "FB46-FB4F"]
    removed := [] },
  { names := ["ka", "katakana"]
    follows := []
    without := []
    added := [
      "3031-3035 309B-309C 30A0-30FA 30FC-30FF 31F0-31FF 32D0-32FE 3300-3357 FF66-FF9D",
      "1AFF0-1AFF3 1AFF5-1AFFB 1AFFD-1AFFE 1B000 1B120-1B122 1B155 1B164-1B167"]
    removed := [] },
  { names := ["lf"]
    follows := []
    without := []
    added := ["A"]
    removed := [] },
  { names := ["ml", "midletter"]
    follows := []
    without := []
    added := ["3A B7 387 55F 5F4 2027 FE13 FE55 FF1A"]
    removed := [] },
  { names := ["mn", "midnum"]
    follows := []
    without := []
    added := ["2C 3B 37E 589 60C-60D 66C 7F8 2044 FE50 FE54 FF0C FF1B"]
    removed := [] },
  { names := ["mb", "midnumlet"]
    follows := []
    without := []
    added := ["2E 2018-2019 2024 FE52 FF07 FF0E"]
    removed := [] },
  { names := ["nl", "newline"]
    follows := []
    without := []
    added := ["B-C 85 2028-2029"]
    removed := [] },
  { names := ["nu", "numeric"]
    follows := ["nd"]
    without := []
    added := ["600-605 66B 6DD 890-891 8E2 19DA 110BD 110CD"]
    removed := [] },
  { names := ["ri", "regionalindicator"]
    follows := []
    without := []
    added := ["1F1E6-1F1FF"]
    removed := [] },
  { names := ["sq", "singlequote"]
    follows := []
    without := []
    added := ["27"]
    removed := [] },
  { names := ["wsegspace"]
    follows := []
    without := []
    added := ["20 1680 2000-2006 2008-200A 205F 3000"]
    removed := [] },
  { names := ["zwj"]
    follows := []
    without := []
    added := ["200D"]
    removed := [] }]

/-- Kinds of characters for the boundaries of sentences. -/
def sentenceBreaks : List BreakKind := [
  { names := ["at", "aterm"]
    follows := []
    without := []
    added := ["2E 2024 FE52 FF0E"]
    removed := [] },
  { names := ["cr"]
    follows := []
    without := []
    added := ["D"]
    removed := [] },
  { names := ["cl", "close"]
    follows := ["ps", "pe", "pi", "pf", "qmark"]
    without := []
    added := ["275B-2760 2E00-2E01 2E06-2E08 2E0B 1F676-1F678"]
    removed := ["FF02 FF07"] },
  { names := ["ex", "extend"]
    follows := ["mc", "grext"]
    without := []
    added := ["200D"]
    removed := [] },
  { names := ["fo", "format"]
    follows := ["cf"]
    without := []
    added := []
    removed := ["600-605 6DD 890-891 8E2 200C-200D 110BD 110CD E0020-E007F"] },
  { names := ["lf"]
    follows := []
    without := []
    added := ["A"]
    removed := [] },
  { names := ["lo", "lower"]
    follows := ["lower"]
    without := []
    added := []
    removed := ["345 10D0-10FA 10FD-10FF"] },
  { names := ["nu", "numeric"]
    follows := ["nd"]
    without := []
    added := ["600-605 66B-66C 6DD 890-891 8E2 19DA 110BD 110CD"]
    removed := [] },
  { names := ["le", "oletter"]
    follows := ["alpha"]
    without := ["upper", "lower", "grext", "mc"]
    added := ["5F3 10D0-10FA 10FD-10FF 1C90-1CBA 1CBD-1CBF"]
    removed := ["1C5-1CB/3 1F2 1F88-1F8F 1F98-1F9F 1FA8-1FAF 1FBC 1FCC 1FFC"] },
  { names := ["sc", "scontinue"]
    follows := []
    without := []
    added := [
      "2C-2D 3A-3B 37E 55D 60C-60D 7F8 1802 1808 2013-2014 3001 FE10-FE11 FE13-FE14",
      "FE31-FE32 FE50-FE51 FE54-FE55 FE58 FE63 FF0C-FF0D FF1A-FF1B FF64"]
    removed := [] },
  { names := ["st", "sterm"]
    follows := ["sterm"]
    without := []
    added := []
    removed := ["2E 2024 FE52 FF0E"] },
  { names := ["se", "sep"]
    follows := []
    without := []
    added := ["85 2028-2029"]
    removed := [] },
  { names := ["sp"]
    follows := ["space"]
    without := []
    added := []
    removed := ["A D 85 2028-2029"] },
  { names := ["up", "upper"]
    follows := ["lt", "upper"]
    without := []
    added := []
    removed := ["1C90-1CBA 1CBD-1CBF"] }]

/-- Code points of a small category or with a property, by a name in lower case. -/
def classOf? (name : String) : Option CharSet :=
  match smallCategory? name with
  | some category => some category
  | none => property? name

/-- Code points of several categories and properties. -/
def unionOfClasses (names : List String) : CharSet :=
  CharSet.unions (names.filterMap classOf?)

/-- Code points of a kind. -/
def BreakKind.holds (kind : BreakKind) : CharSet :=
  (((unionOfClasses kind.follows).difference (unionOfClasses kind.without)).union
    (CharSet.ofText kind.added)).difference (CharSet.ofText kind.removed)

/-- Code points of the kind with a given name. -/
def breakKind? (name : String) (kinds : List BreakKind) : Option CharSet :=
  (kinds.find? fun kind => kind.names.contains name).map BreakKind.holds

end CheckedQuery.Unicode
