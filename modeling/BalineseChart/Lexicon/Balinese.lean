import BalineseChart.Lexicon

/-!
# The Balinese word lists

The words of the built-in grammar by their classes, and the grammar itself. A word
may belong to several classes: *gede* is an adjective and a name, *cerik* an
adjective and a time.
-/

namespace BalineseChart

/-- The built-in word lists. -/
def Lexicon.balinese : Lexicon where
  adjectives :=
    ["jegeg", "lanying", "peteng", "dedet", "lantang", "tegeh", "cenik", "kedas", "nyalang",
     "joh", "ening", "seger", "resik", "becik", "sungkan", "wicaksana", "putih", "tenang", "aget",
     "kasub", "gede", "demen", "seleg", "melah", "pait", "gedeg", "tresna", "bakti", "dueg",
     "sayang", "jejeh", "kangen", "makesiab", "jemet", "penting", "seneng", "perlu", "gelis",
     "satinut", "galak", "lek", "demit", "miik", "ngalub", "ririh", "inguh", "rajin", "bengkung",
     "siteng", "nau", "wareg", "sebet", "cerik", "mekelo", "sue"]
  adverbs :=
    ["sajan", "pisan", "gati", "sesai"]
  nouns :=
    ["cunguh", "kamar", "bok", "punyan", "umah", "kaca", "yeh", "tukad", "griya", "kaki", "prabu",
     "rabi", "panyingakan", "dadong", "manah", "galah", "wastan", "lawar", "basa", "baju", "ubad",
     "adi", "timpal", "okan", "guru", "panak", "meme", "buku", "cicing", "anak", "kulawarga",
     "pan", "pikobet", "pitulung", "awig-awig", "desa", "sekolah", "tamiu", "parumahan", "yoga",
     "natah", "bunga", "sandat", "jumah", "piutang", "lontar", "karya", "idup", "rerama", "kayu",
     "peken", "kebaya", "pura", "nasi", "paon", "ati", "petani", "buah", "stroberi", "tegal",
     "agung", "dagang", "canang", "bapa", "tetamian", "keris", "kemimitan", "paica", "due",
     "kampuh", "sutra", "puri", "tukang", "tenun", "kain", "endek", "wantilan", "gangsa",
     "pragina", "kelas", "paplajahan", "seni", "uyah", "sanggah", "tanding", "tulis", "jukung",
     "sisin", "pasih", "mobil", "lapangan", "perbekel", "tiban", "umur", "ubuhan", "meong",
     "meter", "tembok", "jam", "rapat", "ujian", "pemangku", "ukud"]
  properNouns :=
    ["widya", "putu", "made", "wayan", "nukarna", "bagya", "yogi", "kevin", "inggris", "desak",
     "gede", "kadek", "sanur"]
  pronouns :=
    ["ida", "titiang", "dane", "ragane", "tiang", "ia", "raga", "ipune", "nyane", "ne", "e"]
  determiners :=
    ["punika", "puniki", "ento", "niki"]
  particles :=
    ["i", "sang"]
  prepositions :=
    ["teken", "ring", "ajak", "uli", "di", "saking", "ka"]
  verbs :=
    ["polih", "ngajeng", "malajah", "maan", "nepukin", "ngigel", "musik", "karaosang", "ngempu",
     "malaib", "masatua", "mamaca", "ngidih", "tulung", "makidihang", "ngebekin", "magending",
     "ngitungang", "nyurat", "ngamargiang", "negen", "nganggon", "nongos", "ngalapang",
     "nyilihang", "ngai", "nyetir", "nyalon", "dadi"]
  timeNouns :=
    ["dibi", "ibi", "dugas", "sanja", "semeng", "jani", "tuni", "mani", "tengai"]
  timeAdjectives :=
    ["cerik"]
  numerals :=
    ["sabilang", "molas", "dasa", "akilo", "telu", "limang", "telung", "dua", "duang"]

/-- The built-in grammar. -/
def Grammar.balinese : Grammar :=
  Lexicon.balinese.grammar

end BalineseChart
