import TableGraph.Pattern.Parser

/-!
# Singular forms

An `Inflector` offers singular forms of a word, most likely first.  The English
one knows words without a singular, a few irregular plurals and a list of rules;
the last rule that is found in the word decides.
-/

namespace TableGraph

/-- Offers the singular forms of a word. -/
abbrev Inflector := String → List String

namespace Inflector

/-- Words that are their own singular. -/
def uncountable : List String :=
  ["accommodation", "adulthood", "advertising", "advice", "aggression", "aid", "air", "aircraft",
    "alcohol", "anger", "applause", "arithmetic", "assistance", "athletics", "bacon", "baggage",
    "beef", "biology", "blood", "botany", "bread", "butter", "carbon", "cardboard", "cash", "chalk",
    "chaos", "chess", "crossroads", "countryside", "dancing", "deer", "dignity", "dirt", "dust",
    "economics", "education", "electricity", "engineering", "enjoyment", "envy", "equipment",
    "ethics", "evidence", "evolution", "fame", "fiction", "flour", "flu", "food", "fuel", "fun",
    "furniture", "gallows", "garbage", "garlic", "genetics", "gold", "golf", "gossip", "grammar",
    "gratitude", "grief", "guilt", "gymnastics", "happiness", "hardware", "harm", "hate", "hatred",
    "health", "heat", "help", "homework", "honesty", "honey", "hospitality", "housework", "humour",
    "hunger", "hydrogen", "ice", "importance", "inflation", "information", "innocence", "iron",
    "irony", "jam", "jewelry", "judo", "karate", "knowledge", "lack", "laughter", "lava", "leather",
    "leisure", "lightning", "linguine", "linguini", "linguistics", "literature", "litter",
    "livestock", "logic", "loneliness", "luck", "luggage", "macaroni", "machinery", "magic",
    "management", "mankind", "marble", "mathematics", "mayonnaise", "measles", "methane", "milk",
    "money", "mud", "music", "mumps", "nature", "news", "nitrogen", "nonsense", "nurture",
    "nutrition", "obedience", "obesity", "oxygen", "pasta", "patience", "physics", "poetry",
    "pollution", "poverty", "pride", "psychology", "publicity", "punctuation", "quartz", "racism",
    "relaxation", "reliability", "research", "respect", "revenge", "rice", "rubbish", "rum",
    "safety", "scenery", "seafood", "seaside", "series", "shame", "sheep", "shopping", "sleep",
    "smoke", "smoking", "snow", "soap", "software", "soil", "spaghetti", "species", "steam",
    "stuff", "stupidity", "sunshine", "symmetry", "tennis", "thirst", "thunder", "timber",
    "traffic", "transportation", "trust", "underwear", "unemployment", "unity", "validity", "veal",
    "vegetation", "vegetarianism", "vengeance", "violence", "vitality", "warmth", "wealth",
    "weather", "welfare", "wheat", "wildlife", "wisdom", "yoga", "zinc", "zoology"]

/-- Plurals with a singular of their own. -/
def irregular : List (String × String) :=
  [("oxen", "ox"), ("boxes", "box"), ("men", "man"), ("women", "woman"), ("dice", "die"),
    ("yeses", "yes"), ("feet", "foot"), ("eaves", "eave"), ("geese", "goose"), ("teeth", "tooth"),
    ("quizzes", "quiz")]

/-- What follows the first group of a match in the singular. -/
inductive Ending where
  | text (ending : String)
  | secondGroup

/-- A rule: where its pattern is found, the first group and the ending are the
singular. -/
structure Rule where
  pattern : String
  ending : Ending

/-- The rules of English, the most general first. -/
def rules : List Rule :=
  [⟨"(\\w*)s$", .text ""⟩,
    ⟨"(\\w*)(ss)$", .secondGroup⟩,
    ⟨"(n)ews$", .text "ews"⟩,
    ⟨"(\\w*)(o)es$", .text ""⟩,
    ⟨"(\\w*)([ti])a$", .text "um"⟩,
    ⟨"((a)naly|(b)a|(d)iagno|(p)arenthe|(p)rogno|(s)ynop|(t)he)(sis|ses)$", .text "sis"⟩,
    ⟨"(^analy)(sis|ses)$", .text "sis"⟩,
    ⟨"(\\w*)([^f])ves$", .text "fe"⟩,
    ⟨"(\\w*)(hive)s$", .text ""⟩,
    ⟨"(\\w*)(tive)s$", .text ""⟩,
    ⟨"(\\w*)([lr])ves$", .text "f"⟩,
    ⟨"(\\w*([^aeiouy]|qu))ies$", .text "y"⟩,
    ⟨"(s)eries$", .text "eries"⟩,
    ⟨"(m)ovies$", .text "ovie"⟩,
    ⟨"(\\w*)(x|ch|ss|sh)es$", .secondGroup⟩,
    ⟨"(m|l)ice$", .text "ouse"⟩,
    ⟨"(bus)(es)?$", .text ""⟩,
    ⟨"(shoe)s$", .text ""⟩,
    ⟨"(cris|test)(is|es)$", .text "is"⟩,
    ⟨"^(a)x[ie]s$", .text "xis"⟩,
    ⟨"(octop|vir)(us|i)$", .text "us"⟩,
    ⟨"(alias|status)(es)?$", .text ""⟩,
    ⟨"^(ox)en", .text ""⟩,
    ⟨"(vert|ind)ices$", .text "ex"⟩,
    ⟨"(matr)ices$", .text "ix"⟩,
    ⟨"(quiz)zes$", .text ""⟩,
    ⟨"(database)s$", .text ""⟩]

/-- The rules with their patterns read. -/
def readRules : List (Pattern × Ending) :=
  rules.filterMap fun rule => (Pattern.parse? rule.pattern).map fun pattern => (pattern, rule.ending)

/-- The singular a rule gives: the first group and the ending, the text in front
of the match being left out. -/
def applyRule (word : String) (rule : Pattern × Ending) : Option String :=
  (rule.1.search word).bind fun found =>
    (found.state.group? 1).map fun stem =>
      let ending :=
        match rule.2 with
        | .text ending => ending.toList
        | .secondGroup => (found.state.group? 2).getD []
      String.ofList (stem ++ ending)

/-- The English singular of a word. -/
def englishSingular (word : String) : String :=
  if uncountable.contains word then word
  else
    match irregular.lookup word with
    | some singular => singular
    | none => (readRules.reverse.findSome? (applyRule word)).getD word

/-- The inflector of English, which offers one form of every nonempty word. -/
def english : Inflector := fun word =>
  if word.isEmpty then [] else [englishSingular word]

end Inflector

end TableGraph
