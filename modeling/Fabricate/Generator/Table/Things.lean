/-!
# Things

Tables that are the same in every locale: parts of company names and slogans, domains, telephone
numbers, currencies and files.
-/

namespace Fabricate.Generator.Table

/-- What follows the name of a company. -/
def companySuffixes : Array String :=
  #["Inc", "and Sons", "LLC", "Group"]

/-- How a product is, in a slogan. -/
def slogans : Array String :=
  #["Adaptive", "Balanced", "Focused", "Intuitive", "Open", "Robust", "Seamless", "Visionary"]

/-- What a product is, in a slogan. -/
def products : Array String :=
  #["archive", "framework", "interface", "matrix", "network", "platform", "solution", "toolset"]

/-- What companies do. -/
def activities : Array String :=
  #["deliver", "empower", "enable", "integrate", "orchestrate", "scale", "streamline", "unlock"]

/-- Branches of industry. -/
def industries : Array String :=
  #["Agriculture", "Banking", "Construction", "Education", "Insurance", "Logistics", "Mining",
    "Retail"]

/-- Occupations. -/
def occupations : Array String :=
  #["Analyst", "Architect", "Consultant", "Designer", "Engineer", "Manager", "Planner", "Teacher"]

/-- Ranks of an occupation. -/
def ranks : Array String :=
  #["Chief", "Junior", "Lead", "Principal", "Senior"]

/-- Ends of a host name. -/
def domainSuffixes : Array String :=
  #["com", "biz", "info", "name", "net", "org", "io", "co"]

/-- Hosts of free mail. -/
def mailHosts : Array String :=
  #["mail.example.com", "post.example.net", "inbox.example.org"]

/-- Hosts that are reserved for examples. -/
def safeHosts : Array String :=
  #["example.com", "example.net", "example.org"]

/-- Names of programs that fetch pages. -/
def agents : Array String :=
  #["Mozilla/5.0 (X11; Linux x86_64)", "Mozilla/5.0 (Windows NT 10.0; Win64; x64)",
    "Mozilla/5.0 (Macintosh; Intel Mac OS X 10_15_7)"]

/-- The characters of a password. -/
def passwordChars : Array String :=
  #["0", "1", "2", "3", "4", "5", "6", "7", "8", "9", "A", "B", "C", "D", "E", "F", "G", "H", "I",
    "J", "K", "L", "M", "N", "O", "P", "Q", "R", "S", "T", "U", "V", "W", "X", "Y", "Z", "a", "b",
    "c", "d", "e", "f", "g", "h", "i", "j", "k", "l", "m", "n", "o", "p", "q", "r", "s", "t", "u",
    "v", "w", "x", "y", "z"]

/-- Forms of a telephone number. -/
def phoneForms : Array String :=
  #["(^##) ###-#### x###", "(^##) ###-#### x####", "(^##) ###-#### x#####", "(^##) ###-####",
    "1-^##-###-#### x###", "1-^##-###-#### x####", "1-^##-###-#### x#####", "1-^##-###-####",
    "^##-###-#### x###", "^##-###-#### x####", "^##-###-#### x#####", "^##-###-####",
    "^##.###.#### x###", "^##.###.#### x####", "^##.###.#### x#####", "^##.###.####"]

/-- Forms of the number of a mobile telephone. -/
def cellForms : Array String :=
  #["^##-###-####", "(^##) ###-####", "1-^##-###-####", "^##.###.####"]

/-- Codes of currencies. -/
def currencyCodes : Array String :=
  #["AUD", "BRL", "CAD", "CHF", "CNY", "EUR", "GBP", "JPY", "SAR", "TWD", "USD"]

/-- Names of currencies. -/
def currencyNames : Array String :=
  #["Dollar", "Euro", "Franc", "Krone", "Pound", "Real", "Riyal", "Yen"]

/-- Ends of a file name. -/
def fileExtensions : Array String :=
  #["csv", "doc", "html", "jpg", "json", "md", "pdf", "png", "txt", "xml"]

end Fabricate.Generator.Table
