import Fabricate.Locale

/-!
# Places

Cities, states and countries by locale, and the forms of numbers in an address. In a form `#` is a
digit and `^` a digit but zero.
-/

namespace Fabricate.Generator.Table

/-- Cities. -/
def cities : Locale → Array String
  | .enUS =>
      #["Ashford", "Brookfield", "Cedarville", "Eastport", "Fairmont", "Greenwood", "Lakeside",
        "Riverton"]
  | .frFR => #["Lyon", "Nantes", "Toulouse", "Rennes", "Dijon", "Grenoble", "Angers", "Nîmes"]
  | .ptBR =>
      #["Campinas", "Curitiba", "Recife", "Salvador", "Goiânia", "Manaus", "Belém", "Natal"]
  | .jaJP => #["横浜市", "大阪市", "札幌市", "京都市", "神戸市", "仙台市", "広島市", "福岡市"]
  | .zhCN => #["杭州", "成都", "武汉", "南京", "西安", "苏州", "青岛", "长沙"]
  | .zhTW => #["台北市", "高雄市", "台中市", "台南市", "新竹市", "基隆市", "嘉義市", "桃園市"]
  | .arSA => #["الرياض", "جدة", "الدمام", "تبوك", "أبها", "حائل", "نجران", "الطائف"]

/-- States. -/
def states : Locale → Array String
  | .enUS =>
      #["Alabama", "California", "Florida", "Georgia", "Kansas", "Montana", "Oregon", "Texas"]
  | .frFR => #["Bretagne", "Normandie", "Occitanie", "Corse"]
  | .ptBR => #["Bahia", "Ceará", "Paraná", "São Paulo"]
  | .jaJP => #["北海道", "青森県", "京都府", "沖縄県"]
  | .zhCN => #["浙江省", "四川省", "湖北省", "江苏省"]
  | .zhTW => #["宜蘭縣", "花蓮縣", "台東縣", "屏東縣"]
  | .arSA => #["القصيم", "عسير", "جازان", "الجوف"]

/-- Countries. -/
def countries : Locale → Array String
  | .enUS => #["Brazil", "Canada", "Denmark", "Egypt", "France", "Japan", "Kenya", "Norway"]
  | .frFR => #["Belgique", "Canada", "Espagne", "France", "Maroc", "Suisse"]
  | .ptBR => #["Angola", "Argentina", "Brasil", "Chile", "Portugal", "Uruguai"]
  | .jaJP => #["日本", "韓国", "フランス", "ブラジル"]
  | .zhCN => #["中国", "日本", "法国", "巴西"]
  | .zhTW => #["台灣", "日本", "法國", "巴西"]
  | .arSA => #["السعودية", "مصر", "الأردن", "المغرب"]

/-- Abbreviations of states. -/
def stateAbbreviations : Array String :=
  #["AL", "AK", "AZ", "AR", "CA", "CO", "CT", "DE", "FL", "GA", "HI", "ID", "IL", "IN", "IA",
    "KS", "KY", "LA", "ME", "MD", "MA", "MI", "MN", "MS", "MO", "MT", "NE", "NV", "NH", "NJ",
    "NM", "NY", "NC", "ND", "OH", "OK", "OR", "PA", "RI", "SC", "SD", "TN", "TX", "UT", "VT",
    "VA", "WA", "WV", "WI", "WY"]

/-- Codes of countries. -/
def countryCodes : Array String :=
  #["BR", "CA", "CN", "DK", "EG", "FR", "JP", "KE", "NO", "SA", "TW", "US"]

/-- What a street is called after its name. -/
def streetKinds : Array String :=
  #["Avenue", "Court", "Drive", "Lane", "Road", "Square", "Street", "Way"]

/-- Forms of the number of a building. -/
def buildingForms : Array String :=
  #["#####", "####", "###"]

/-- Forms of a zip code. -/
def zipForms : Array String :=
  #["#####", "####", "###"]

/-- Forms of a post code. -/
def postcodeForms : Array String :=
  #["#####", "#####-####"]

end Fabricate.Generator.Table
