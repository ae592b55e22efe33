-- SUMMARY: Text modes and catalogs, and the library functions whose tables are not modelled.
import UsbRestore.Qt.Arg

/-!
# Text

Every message of the core exists in English and, through the installed catalog, in the
language of the user interface. A catalog is any function from source text to text.
-/

namespace UsbRestore

/-- The translation contexts in use: `usbrestore::Core`, `usbrestore::Backend` and
`usbrestore::Startup`. -/
inductive Context where
  | core
  | backend
  | startup
  deriving DecidableEq

/-- What `QCoreApplication::translate` returns while one translator is installed. -/
abbrev Catalog := Context → QString → QString

/-- English as a catalog: every text stands for itself. -/
def Catalog.english : Catalog := fun _ source => source

/-- `TextMode`. The display mode carries the catalog that is installed at the call. -/
inductive TextMode where
  | english
  | display (installed : Catalog)

def coreText (source : QString) : TextMode → QString
  | .english => source
  | .display installed => installed .core source

/-- Functions of the libraries the program is linked with that depend on tables of theirs:
Unicode case, the numbers of a locale, error texts. -/
class Host where
  toCaseFolded : QString → QString
  toCaseFolded_eq_nil : ∀ {text}, toCaseFolded text = [] ↔ text = []
  toUpper : QString → QString
  isLetter : QChar → Bool
  isDigit : QChar → Bool
  /-- `haystack.contains(needle, Qt::CaseInsensitive)` -/
  containsCaseInsensitive : (haystack needle : QString) → Bool
  /-- `QLocale(name).toString(value, 'f', precision)` without group separators. -/
  localeToString : (name : QString) → (value : Rat) → (precision : Nat) → QString
  /-- `QString::fromLocal8Bit(std::strerror(code))` -/
  strerror : Nat → QString

attribute [simp] Host.toCaseFolded_eq_nil

/-- The name of the locale that numbers are shown in. -/
def displayLocale (installed : Catalog) : QString :=
  coreText (QStringLiteral "en_US") (.display installed)

def formatDecimal [Host] (value : Rat) (precision : Nat) : TextMode → QString
  | .english => Host.localeToString (QStringLiteral "C") value precision
  | .display installed => Host.localeToString (displayLocale installed) value precision

namespace SmallStick

def foldAscii (c : QChar) : QChar := if 65 ≤ c && c ≤ 90 then c + 32 else c

/-- `value` rounded to `precision` digits, with a comma in German. -/
def fixedText (name : QString) (value : Rat) (precision : Nat) : QString :=
  let scaled := (value * 10 ^ precision + 1 / 2).floor.toNat
  let part := QString.number (scaled % 10 ^ precision)
  QString.number (scaled / 10 ^ precision) ++
    (if (QStringLiteral "de").isPrefixOf name then QStringLiteral "," else QStringLiteral ".") ++
    List.replicate (precision - part.length) (QChar.ofChar '0') ++ part

/-- The library functions on ASCII text. -/
scoped instance asciiHost : Host where
  toCaseFolded text := text.map foldAscii
  toCaseFolded_eq_nil := List.map_eq_nil_iff
  toUpper text := text.map fun c => if 97 ≤ c && c ≤ 122 then c - 32 else c
  isLetter c := (65 ≤ c && c ≤ 90) || (97 ≤ c && c ≤ 122)
  isDigit := QChar.isDigit
  containsCaseInsensitive haystack needle :=
    (haystack.map foldAscii).tails.any fun tail => (needle.map foldAscii).isPrefixOf tail
  localeToString := fixedText
  strerror code := QStringLiteral "error " ++ QString.number code

end SmallStick

end UsbRestore
