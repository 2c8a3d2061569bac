import PartSearch.Text.Blank

/-!
Manufacturers under their several names: how catalogs spell them, and what people call them.
-/

namespace PartSearch.Maker

def known : List String := [
  "YAGEO", "Samsung Electro-Mechanics", "Murata Electronics", "TDK Corporation", "Panasonic",
  "Wurth Elektronik", "Bourns", "Littelfuse", "KEMET", "UNI-ROYAL(Uniroyal Elec)",
  "FH (Guangdong Fenghua Advanced Tech)", "FOJAN", "Sunlord", "Texas Instruments",
  "STMicroelectronics", "NXP Semicon", "Microchip Tech", "Analog Devices",
  "Analog Devices Inc./Maxim Integrated", "onsemi", "Infineon Technologies",
  "Infineon/Cypress Semicon", "Renesas Electronics", "ROHM Semicon", "Vishay Intertech",
  "Diodes Incorporated", "Nexperia", "Torex Semicon", "TOSHIBA", "SGMICRO", "XLSEMI", "GOFORD",
  "3PEAK", "Wuxi NCE Power Semiconductor", "Advanced Monolithic Systems", "HXY MOSFET",
  "Alpha & Omega Semicon", "JSMSEMI", "MSKSEMI", "GigaDevice Semicon Beijing",
  "WCH(Jiangsu Qin Heng)", "Espressif Systems", "Nordic Semicon", "Raspberry Pi", "Everlight Elec",
  "Worldsemi", "XINGLIGHT", "Kingbright", "JST", "MOLEX", "HANRUN(Zhongshan HanRun Elec)",
  "SHOU HAN", "TE Connectivity", "BOOMELE(Boom Precision Elec)", "YXC Crystal Oscillators",
  "Winbond Elec", "Richtek Tech", "Sensirion", "ShangHai Consonance Elec",
  "Jiangsu Changjing Electronics Technology Co., Ltd.", "UTC(Unisonic Tech)"]

/-- Other names in lowercase, each with the spelling of catalogs. -/
def aliases : List (String × String) := [
  ("ti", "Texas Instruments"), ("texas", "Texas Instruments"), ("st", "STMicroelectronics"),
  ("stm", "STMicroelectronics"), ("stmicro", "STMicroelectronics"), ("nxp", "NXP Semicon"),
  ("nxp semiconductor", "NXP Semicon"), ("microchip", "Microchip Tech"),
  ("microchip technology", "Microchip Tech"), ("adi", "Analog Devices"),
  ("analog", "Analog Devices"), ("maxim", "Analog Devices Inc./Maxim Integrated"),
  ("maxim integrated", "Analog Devices Inc./Maxim Integrated"), ("on", "onsemi"),
  ("on semi", "onsemi"), ("on semiconductor", "onsemi"), ("infineon", "Infineon Technologies"),
  ("cypress", "Infineon/Cypress Semicon"), ("renesas", "Renesas Electronics"),
  ("rohm", "ROHM Semicon"), ("rohm semiconductor", "ROHM Semicon"), ("vishay", "Vishay Intertech"),
  ("vishay intertechnology", "Vishay Intertech"), ("diodes", "Diodes Incorporated"),
  ("diodes inc", "Diodes Incorporated"), ("torex", "Torex Semicon"),
  ("fh", "FH (Guangdong Fenghua Advanced Tech)"),
  ("fenghua", "FH (Guangdong Fenghua Advanced Tech)"), ("uniroyal", "UNI-ROYAL(Uniroyal Elec)"),
  ("uni-royal", "UNI-ROYAL(Uniroyal Elec)"),
  ("changjing", "Jiangsu Changjing Electronics Technology Co., Ltd."),
  ("jscj", "Jiangsu Changjing Electronics Technology Co., Ltd."),
  ("boomele", "BOOMELE(Boom Precision Elec)"), ("hxy", "HXY MOSFET"),
  ("utc", "UTC(Unisonic Tech)"), ("sg micro", "SGMICRO"), ("xl semiconductor", "XLSEMI"),
  ("nce", "Wuxi NCE Power Semiconductor"), ("nce power", "Wuxi NCE Power Semiconductor"),
  ("goford semiconductor", "GOFORD"), ("threepeak", "3PEAK"),
  ("ams", "Advanced Monolithic Systems"), ("aos", "Alpha & Omega Semicon"),
  ("alpha omega", "Alpha & Omega Semicon"), ("jsm", "JSMSEMI"), ("msk", "MSKSEMI"),
  ("gd", "GigaDevice Semicon Beijing"), ("gigadevice", "GigaDevice Semicon Beijing"),
  ("wch", "WCH(Jiangsu Qin Heng)"), ("qinheng", "WCH(Jiangsu Qin Heng)"),
  ("ch32", "WCH(Jiangsu Qin Heng)"), ("espressif", "Espressif Systems"),
  ("nordic", "Nordic Semicon"), ("murata", "Murata Electronics"),
  ("samsung", "Samsung Electro-Mechanics"), ("tdk", "TDK Corporation"),
  ("wurth", "Wurth Elektronik"), ("hanrun", "HANRUN(Zhongshan HanRun Elec)"),
  ("te", "TE Connectivity"), ("yxc", "YXC Crystal Oscillators"), ("winbond", "Winbond Elec"),
  ("richtek", "Richtek Tech"), ("consonance", "ShangHai Consonance Elec")]

/-- The spelling of catalogs for a name in any case. One that is not known stays as it is. -/
def spelling (name : String) : String :=
  let key := lowercase (trimmed name)
  (aliases.lookup key <|> known.find? fun k => lowercase k == key).getD (trimmed name)

end PartSearch.Maker
