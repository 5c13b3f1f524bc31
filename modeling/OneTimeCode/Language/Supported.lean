import OneTimeCode.Text.Basic

/-! # The languages that the provider supports -/
namespace OneTimeCode
open Text

/-- In the order of their code points. -/
def supportedLanguages : List Text :=
  (["af", "ar", "ca", "cs", "da", "de", "el", "en", "en-GB", "es", "fi", "fr", "he", "hi", "hr",
    "hu", "id", "it", "ja", "ko", "ms", "nb", "nl", "pl", "pt", "pt-BR", "ro", "ru", "sv", "th",
    "tl", "tr", "vi", "zh", "zh-CN", "zh-HK"] : List String).map ofString

end OneTimeCode
