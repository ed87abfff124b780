import QueryShell.CodePoint
import QueryShell.Text.CodePage

namespace QueryShell.Text

/-- The names of the encodings whose tables and states are not part of this library. -/
def codecNames : List (List String) :=
  [["big5", "big5_tw", "csbig5", "x_mac_trad_chinese"],
    ["big5hkscs", "big5_hkscs", "hkscs"],
    ["cp932", "932", "ms932", "ms_kanji", "mskanji"],
    ["cp949", "949", "ms949", "uhc"],
    ["cp950", "950", "ms950"],
    ["euc_jis_2004", "euc_jis2004", "eucjis2004", "jisx0213"],
    ["euc_jisx0213", "eucjisx0213"],
    ["euc_jp", "eucjp", "u_jis", "ujis"],
    ["euc_kr", "euckr", "korean", "ks_c_5601", "ks_c_5601_1987", "ks_x_1001", "ksc5601",
      "ksx1001", "x_mac_korean"],
    ["gb18030", "gb18030_2000"],
    ["gb2312", "chinese", "csiso58gb231280", "euc_cn", "euccn", "eucgb2312_cn", "gb2312_1980",
      "gb2312_80", "iso_ir_58", "x_mac_simp_chinese"],
    ["gbk", "936", "cp936", "ms936"],
    ["hz", "hz_gb", "hz_gb_2312", "hzgb"],
    ["iso2022_jp", "csiso2022jp", "iso2022jp", "iso_2022_jp"],
    ["iso2022_jp_1", "iso2022jp_1", "iso_2022_jp_1"],
    ["iso2022_jp_2", "iso2022jp_2", "iso_2022_jp_2"],
    ["iso2022_jp_2004", "iso2022jp_2004", "iso_2022_jp_2004"],
    ["iso2022_jp_3", "iso2022jp_3", "iso_2022_jp_3"],
    ["iso2022_jp_ext", "iso2022jp_ext", "iso_2022_jp_ext"],
    ["iso2022_kr", "csiso2022kr", "iso2022kr", "iso_2022_kr"],
    ["johab", "cp1361", "ms1361"],
    ["shift_jis", "csshiftjis", "s_jis", "shiftjis", "sjis", "x_mac_japanese"],
    ["shift_jis_2004", "s_jis_2004", "shiftjis2004", "sjis_2004"],
    ["shift_jisx0213", "s_jisx0213", "shiftjisx0213", "sjisx0213"],
    ["utf_7", "u7", "unicode_1_1_utf_7", "utf7"],
    ["unicode_escape"],
    ["raw_unicode_escape"],
    ["punycode"]]

/-- How such an encoding reads bytes; nothing stands for what it cannot read. -/
class Codecs where
  decode : (codec : String) → List UInt8 → List (Option CodePoint)

/-- Without the tables of these encodings only ASCII can be read. -/
instance (priority := low) Codecs.unknown : Codecs :=
  ⟨fun _ bytes => bytes.map fun b => if b.toNat < 0x80 then some (.ofNat b.toNat) else none⟩

def codecNamed? (plain : String) : Option String :=
  (codecNames.find? fun names => isAmong names plain).bind List.head?

end QueryShell.Text
