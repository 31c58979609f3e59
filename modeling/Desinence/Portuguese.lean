/-
The rule table for Portuguese.

Seven stages, 241 rules. Plural, adverbial and feminine endings go first, then
augmentatives; noun endings, verb endings and thematic vowels follow, each stage
on what the one before it left. The feminine stage trades a feminine ending for
the masculine one, the others mostly take an ending away.

It is the table in `portuguese.rslp`, as `load_rules` reads it.
-/
import Desinence.Rule

set_option autoImplicit false
set_option maxRecDepth 4096

namespace Desinence

namespace Portuguese

/-- A row of the table, with its texts as strings. -/
def rule (suffix : String) (minStem : Nat) (replacement : String)
    (exceptions : List String := []) : Rule :=
  ⟨suffix.toList, minStem, replacement.toList, exceptions.map String.toList⟩

/-- Plural endings. -/
def plural : Stage :=
  ⟨"Plural".toList, 3, false, ["s".toList],
    [rule "ns" 1 "m",
     rule "ões" 3 "ão",
     rule "ães" 1 "ão" ["mães"],
     rule "ais" 1 "al" ["cais", "mais"],
     rule "éis" 2 "el",
     rule "eis" 2 "el",
     rule "óis" 2 "ol",
     rule "is" 2 "il"
      ["lápis", "cais", "mais", "crúcis", "biquínis", "pois", "depois", "dois", "leis"],
     rule "les" 3 "l",
     rule "res" 3 "r" ["árvores"],
     rule "s" 2 ""
      ["aliás", "pires", "lápis", "cais", "mais", "mas", "menos", "férias", "fezes", "pêsames",
       "crúcis", "gás", "atrás", "moisés", "através", "convés", "ês", "país", "após", "ambas",
       "ambos", "messias", "depois"]]⟩

/-- The adverbial ending. -/
def adverb : Stage :=
  ⟨"Adverb".toList, 0, false, [],
    [rule "mente" 4 "" ["experimente"]]⟩

/-- Feminine endings, which become masculine ones. -/
def feminine : Stage :=
  ⟨"Feminine".toList, 3, false, ["a".toList, "ã".toList],
    [rule "ona" 3 "ão"
      ["abandona", "lona", "iona", "cortisona", "monótona", "maratona", "acetona", "detona",
       "carona"],
     rule "ora" 3 "or",
     rule "na" 4 "no"
      ["carona", "abandona", "lona", "iona", "cortisona", "monótona", "maratona", "acetona",
       "detona", "guiana", "campana", "grana", "caravana", "banana", "paisana"],
     rule "inha" 3 "inho" ["rainha", "linha", "minha"],
     rule "esa" 3 "ês" ["mesa", "obesa", "princesa", "turquesa", "ilesa", "pesa", "presa"],
     rule "osa" 3 "oso" ["mucosa", "prosa"],
     rule "íaca" 3 "íaco",
     rule "ica" 3 "ico" ["dica"],
     rule "ada" 2 "ado" ["pitada"],
     rule "ida" 3 "ido" ["vida"],
     rule "ída" 3 "ido" ["recaída", "saída", "dúvida"],
     rule "ima" 3 "imo" ["vítima"],
     rule "iva" 3 "ivo" ["saliva", "oliva"],
     rule "eira" 3 "eiro"
      ["beira", "cadeira", "frigideira", "bandeira", "feira", "capoeira", "barreira", "fronteira",
       "besteira", "poeira"],
     rule "ã" 2 "ão" ["amanhã", "arapuã", "fã", "divã"]]⟩

/-- Augmentatives, diminutives and superlatives. -/
def augmentative : Stage :=
  ⟨"Augmentative".toList, 0, true, [],
    [rule "díssimo" 5 "",
     rule "abilíssimo" 5 "",
     rule "íssimo" 3 "",
     rule "ésimo" 3 "",
     rule "érrimo" 4 "",
     rule "zinho" 2 "",
     rule "quinho" 4 "c",
     rule "uinho" 4 "",
     rule "adinho" 3 "",
     rule "inho" 3 "" ["caminho", "cominho"],
     rule "alhão" 4 "",
     rule "uça" 4 "",
     rule "aço" 4 "" ["antebraço"],
     rule "aça" 4 "",
     rule "adão" 4 "",
     rule "idão" 4 "",
     rule "ázio" 3 "" ["topázio"],
     rule "arraz" 4 "",
     rule "zarrão" 3 "",
     rule "arrão" 4 "",
     rule "zão" 2 "" ["coalizão"],
     rule "ão" 3 ""
      ["camarão", "chimarrão", "canção", "coração", "embrião", "grotão", "glutão", "ficção",
       "fogão", "feição", "furacão", "gamão", "lampião", "leão", "macacão", "nação", "órfão",
       "orgão", "patrão", "portão", "quinhão", "rincão", "tração", "falcão", "espião", "mamão",
       "folião", "cordão", "aptidão", "campeão", "colchão", "limão", "leilão", "melão", "barão",
       "milhão", "bilhão", "fusão", "cristão", "ilusão", "capitão", "estação", "senão"]]⟩

/-- Endings that derive nouns and adjectives. -/
def noun : Stage :=
  ⟨"Noun".toList, 0, true, [],
    [rule "encialista" 4 "",
     rule "alista" 5 "",
     rule "agem" 3 "" ["coragem", "chantagem", "vantagem", "carruagem"],
     rule "iamento" 4 "",
     rule "amento" 3 "" ["firmamento", "fundamento", "departamento"],
     rule "imento" 3 "",
     rule "mento" 6 "" ["firmamento", "elemento", "complemento", "instrumento", "departamento"],
     rule "alizado" 4 "",
     rule "atizado" 4 "",
     rule "tizado" 4 "" ["alfabetizado"],
     rule "izado" 5 "" ["organizado", "pulverizado"],
     rule "ativo" 4 "" ["pejorativo", "relativo"],
     rule "tivo" 4 "" ["relativo"],
     rule "ivo" 4 "" ["passivo", "possessivo", "pejorativo", "positivo"],
     rule "ado" 2 "" ["grado"],
     rule "ido" 3 "" ["cândido", "consolidado", "rápido", "decido", "tímido", "duvido", "marido"],
     rule "ador" 3 "",
     rule "edor" 3 "",
     rule "idor" 4 "" ["ouvidor"],
     rule "dor" 4 "" ["ouvidor"],
     rule "sor" 4 "" ["assessor"],
     rule "atoria" 5 "",
     rule "tor" 3 ""
      ["benfeitor", "leitor", "editor", "pastor", "produtor", "promotor", "consultor"],
     rule "or" 2 ""
      ["motor", "melhor", "redor", "rigor", "sensor", "tambor", "tumor", "assessor", "benfeitor",
       "pastor", "terior", "favor", "autor"],
     rule "abilidade" 5 "",
     rule "icionista" 4 "",
     rule "cionista" 5 "",
     rule "ionista" 5 "",
     rule "ionar" 5 "",
     rule "ional" 4 "",
     rule "ência" 3 "",
     rule "ância" 4 "" ["ambulância"],
     rule "edouro" 3 "",
     rule "queiro" 3 "c",
     rule "adeiro" 4 "" ["desfiladeiro"],
     rule "eiro" 3 "" ["desfiladeiro", "pioneiro", "mosteiro"],
     rule "uoso" 3 "",
     rule "oso" 3 "" ["precioso"],
     rule "alizaç" 5 "",
     rule "atizaç" 5 "",
     rule "tizaç" 5 "",
     rule "izaç" 5 "" ["organizaç"],
     rule "aç" 3 "" ["equaç", "relaç"],
     rule "iç" 3 "" ["eleiç"],
     rule "ário" 3 "" ["voluntário", "salário", "aniversário", "diário", "lionário", "armário"],
     rule "atório" 3 "",
     rule "rio" 5 ""
      ["voluntário", "salário", "aniversário", "diário", "compulsório", "lionário", "próprio",
       "stério", "armário"],
     rule "ério" 6 "",
     rule "ês" 4 "",
     rule "eza" 3 "",
     rule "ez" 4 "",
     rule "esco" 4 "",
     rule "ante" 2 "" ["gigante", "elefante", "adiante", "possante", "instante", "restaurante"],
     rule "ástico" 4 "" ["eclesiástico"],
     rule "alístico" 3 "",
     rule "áutico" 4 "",
     rule "êutico" 4 "",
     rule "tico" 3 ""
      ["político", "eclesiástico", "diagnostico", "prático", "doméstico", "diagnóstico",
       "idêntico", "alopático", "artístico", "autêntico", "eclético", "crítico", "critico"],
     rule "ico" 4 "" ["tico", "público", "explico"],
     rule "ividade" 5 "",
     rule "idade" 4 "" ["autoridade", "comunidade"],
     rule "oria" 4 "" ["categoria"],
     rule "encial" 5 "",
     rule "ista" 4 "",
     rule "auta" 5 "",
     rule "quice" 4 "c",
     rule "ice" 4 "" ["cúmplice"],
     rule "íaco" 3 "",
     rule "ente" 4 "" ["freqüente", "alimente", "acrescente", "permanente", "oriente", "aparente"],
     rule "ense" 5 "",
     rule "inal" 3 "",
     rule "ano" 4 "",
     rule "ável" 2 "" ["afável", "razoável", "potável", "vulnerável"],
     rule "ível" 3 "" ["possível"],
     rule "vel" 5 "" ["possível", "vulnerável", "solúvel"],
     rule "bil" 3 "vel",
     rule "ura" 4 "" ["imatura", "acupuntura", "costura"],
     rule "ural" 4 "",
     rule "ual" 3 "" ["bissexual", "virtual", "visual", "pontual"],
     rule "ial" 3 "",
     rule "al" 4 ""
      ["afinal", "animal", "estatal", "bissexual", "desleal", "fiscal", "formal", "pessoal",
       "liberal", "postal", "virtual", "visual", "pontual", "sideral", "sucursal"],
     rule "alismo" 4 "",
     rule "ivismo" 4 "",
     rule "ismo" 3 "" ["cinismo"]]⟩

/-- Endings of conjugated verbs. -/
def verb : Stage :=
  ⟨"Verb".toList, 0, true, [],
    [rule "aríamo" 2 "",
     rule "ássemo" 2 "",
     rule "eríamo" 2 "",
     rule "êssemo" 2 "",
     rule "iríamo" 3 "",
     rule "íssemo" 3 "",
     rule "áramo" 2 "",
     rule "árei" 2 "",
     rule "aremo" 2 "",
     rule "ariam" 2 "",
     rule "aríei" 2 "",
     rule "ássei" 2 "",
     rule "assem" 2 "",
     rule "ávamo" 2 "",
     rule "êramo" 3 "",
     rule "eremo" 3 "",
     rule "eriam" 3 "",
     rule "eríei" 3 "",
     rule "êssei" 3 "",
     rule "essem" 3 "",
     rule "íramo" 3 "",
     rule "iremo" 3 "",
     rule "iriam" 3 "",
     rule "iríei" 3 "",
     rule "íssei" 3 "",
     rule "issem" 3 "",
     rule "ando" 2 "",
     rule "endo" 3 "",
     rule "indo" 3 "",
     rule "ondo" 3 "",
     rule "aram" 2 "",
     rule "arão" 2 "",
     rule "arde" 2 "",
     rule "arei" 2 "",
     rule "arem" 2 "",
     rule "aria" 2 "",
     rule "armo" 2 "",
     rule "asse" 2 "",
     rule "aste" 2 "",
     rule "avam" 2 "" ["agravam"],
     rule "ávei" 2 "",
     rule "eram" 3 "",
     rule "erão" 3 "",
     rule "erde" 3 "",
     rule "erei" 3 "",
     rule "êrei" 3 "",
     rule "erem" 3 "",
     rule "eria" 3 "",
     rule "ermo" 3 "",
     rule "esse" 3 "",
     rule "este" 3 "" ["faroeste", "agreste"],
     rule "íamo" 3 "",
     rule "iram" 3 "",
     rule "íram" 3 "",
     rule "irão" 2 "",
     rule "irde" 2 "",
     rule "irei" 3 "" ["admirei"],
     rule "irem" 3 "" ["adquirem"],
     rule "iria" 3 "",
     rule "irmo" 3 "",
     rule "isse" 3 "",
     rule "iste" 4 "",
     rule "iava" 4 "" ["ampliava"],
     rule "amo" 2 "",
     rule "iona" 3 "",
     rule "ara" 2 "" ["arara", "prepara"],
     rule "ará" 2 "" ["alvará"],
     rule "are" 2 "" ["prepare"],
     rule "ava" 2 "" ["agrava"],
     rule "emo" 2 "",
     rule "era" 3 "" ["acelera", "espera"],
     rule "erá" 3 "",
     rule "ere" 3 "" ["espere"],
     rule "iam" 3 "" ["enfiam", "ampliam", "elogiam", "ensaiam"],
     rule "íei" 3 "",
     rule "imo" 3 "" ["reprimo", "intimo", "íntimo", "nimo", "queimo", "ximo"],
     rule "ira" 3 "" ["fronteira", "sátira"],
     rule "ído" 3 "",
     rule "irá" 3 "",
     rule "tizar" 4 "" ["alfabetizar"],
     rule "izar" 5 "" ["organizar"],
     rule "itar" 5 "" ["acreditar", "explicitar", "estreitar"],
     rule "ire" 3 "" ["adquire"],
     rule "omo" 3 "",
     rule "ai" 2 "",
     rule "am" 2 "",
     rule "ear" 4 "" ["alardear", "nuclear"],
     rule "ar" 2 "" ["azar", "bazaar", "patamar"],
     rule "uei" 3 "",
     rule "uía" 5 "u",
     rule "ei" 3 "",
     rule "guem" 3 "g",
     rule "em" 2 "" ["alem", "virgem"],
     rule "er" 2 "" ["éter", "pier"],
     rule "eu" 3 "" ["chapeu"],
     rule "ia" 3 ""
      ["estória", "fatia", "acia", "praia", "elogia", "mania", "lábia", "aprecia", "polícia",
       "arredia", "cheia", "ásia"],
     rule "ir" 3 "" ["freir"],
     rule "iu" 3 "",
     rule "eou" 5 "",
     rule "ou" 3 "",
     rule "i" 3 ""]⟩

/-- Thematic vowels. -/
def vowel : Stage :=
  ⟨"Vowel".toList, 0, false, [],
    [rule "bil" 2 "vel",
     rule "gue" 2 "g" ["gangue", "jegue"],
     rule "á" 3 "",
     rule "ê" 3 "" ["bebê"],
     rule "a" 3 "" ["ásia"],
     rule "e" 3 "",
     rule "o" 3 "" ["ão"]]⟩

/-- **The table**, in the order in which its stages run. -/
def table : Table :=
  [plural, adverb, feminine, augmentative, noun, verb, vowel]

end Portuguese

end Desinence
