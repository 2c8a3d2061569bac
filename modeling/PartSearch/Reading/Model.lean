import PartSearch.Text.Pattern

/-!
Part numbers in a query. The families of vendors come first and the general shape of letters and
digits last, so that it never cuts a longer part number short.
-/

namespace PartSearch.Model

open Text (Pattern)
open Text.Pattern

def numbered (letters : String) (count : Nat) : Pattern := caseless letters ++ times count digit

def tail : Pattern := many letterOrDigit

def letters : Pattern := many letter

/-- The shapes of part numbers in the order in which they are tried. -/
def shapes : List Pattern := [
  caseless "ESP32" ++ many1 (charOf "-" ++ many1 letterOrDigit),
  anyOf [
    caseless "STM32" ++ letter ++ digits ++ tail, caseless "GD32" ++ letter ++ digits ++ tail,
    caseless "CH32V" ++ digits ++ tail, caseless "RP2040",
    caseless "RP2350" ++ maybe (caselessCharOf "AB"), caseless "ATMEGA" ++ digits ++ letters,
    caseless "ATTINY" ++ digits ++ letters, caseless "PIC" ++ digits ++ tail],
  anyOf [
    numbered "NRF5" 4 ++ tail, caseless "CH340" ++ maybe letter, caseless "CH9102" ++ maybe letter,
    numbered "CP210" 1 ++ maybe letter],
  anyOf [
    caseless "TP" ++ charOf "45" ++ times 3 digit, numbered "AMS" 4, numbered "LM" 4,
    caseless "NE555", numbered "TL" 3,
    caseless "LM" ++ maybe (caseless "V") ++ timesUpTo 3 1 digit,
    caseless "TPS" ++ timesUpTo 4 1 digit],
  anyOf [
    numbered "AO" 4, numbered "SI" 4, caseless "IRF" ++ timesUpTo 3 1 digit,
    caseless "IRL" ++ maybe (caseless "Z") ++ timesUpTo 2 2 digit, numbered "2N" 4,
    numbered "BC" 3],
  anyOf [caseless "WS2812" ++ letters, caseless "SK6812", caseless "APA102", caseless "TLC5940"],
  anyOf [
    numbered "BME" 3, numbered "BMP" 3, numbered "MPU" 4, numbered "SHT" 2, numbered "AHT" 2,
    caseless "DS18B20", numbered "INA" 3, numbered "AXP" 3, caseless "IP5306"],
  anyOf [
    numbered "1N" 4 ++ letters, numbered "1SS" 3 ++ letters, numbered "BAT" 2 ++ letters,
    numbered "BAS" 2 ++ letters, numbered "BAV" 2 ++ letters],
  timesUpTo 2 3 letter ++ timesUpTo 2 3 digit ++ maybe letter ++ many digit ++
    maybe (charOf "-" ++ many1 letterOrDigit)]

/-- Abbreviations and connector codes that look like part numbers. -/
def genericTerms : List String := [
  "LED", "LCD", "USB", "SPI", "I2C", "ADC", "DAC", "MCU", "CPU", "GPU", "RJ45", "RJ11", "RJ12",
  "RJ9", "RJ22", "RJ25", "RS485", "RS232", "RS422"]

/-- Families of packages which look like part numbers together with a pin count. -/
def packageFamilies : List String := [
  "WLCSP", "LFCSP", "TSSOP", "SSOP", "MSOP", "QSOP", "SOIC", "LQFP", "TQFP", "UCSP", "VCSP", "SOT",
  "SOD", "SOP", "QFN", "DFN", "QFP", "BGA", "DIP", "SIP", "CSP", "SMD", "LGA", "TO", "DO"]

/-- Is a text in capitals a package family and a pin count, perhaps of the long form? -/
def looksLikePackage (cs : List Char) : Bool :=
  packageFamilies.any fun family =>
    family.toList.isPrefixOf cs &&
      match cs.drop family.length with
      | c :: rest => c.isDigit && rest.all fun d => d.isDigit || d = 'L'
      | [] => false

def isPlausible (cs : List Char) : Bool :=
  let capitals := Text.asciiUpper cs
  !genericTerms.contains (String.ofList capitals) && !looksLikePackage capitals

def occurrence? (cs : List Char) (shape : Pattern) : Option Text.Found :=
  ((wordOf shape).find? cs).filter fun m => isPlausible m.text

/-- A part number as it was typed, and the text without it. -/
def extract (text : String) : Option String × String :=
  match shapes.findSome? (occurrence? text.toList) with
  | some m => (some (String.ofList m.text), String.ofList m.remove)
  | none => (none, text)

end PartSearch.Model
