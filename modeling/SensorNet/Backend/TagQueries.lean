import Mathlib.Data.List.Perm.Basic
import SensorNet.Lib.QuotedText

/-!
# Queries by tag (`iot-hub.service.ts`)

`getHubsByTag` writes the name of a tag and a value into the text of a query, the value
between single quotes, and `queryDevices` collects the pages of what the registry answers.

Of the registry we assume how it reads the text (literals in single quotes, in which the
quote is escaped: `Quoting`), and that the query for a tag, if the tag has a plain name,
selects the devices with this value of the tag. What any other query selects is not known.

- `queriesTag_iff`: when the query is the one for the tag and the value. A value with a
  quote is not escaped: what follows the quote is read as a part of the query.
-/

namespace SensorNet.Backend

open SensorNet.QuotedText

/-! ## The query that is meant -/

/-- A word of a path: letters, digits and underscores, a letter first -/
def isPathWord : List Char → Bool
  | [] => false
  | c :: cs => c.isAlpha && cs.all fun d => d.isAlphanum || d == '_'

/-- The name of a tag that can stand in a query as it is: words with dots between them -/
def isTagPath (tagName : String) : Bool :=
  (tagName.toList.splitOn '.').all isPathWord

/-- The query for a tag up to the value -/
def beforeValue (tagName : String) : String :=
  "SELECT * FROM devices WHERE tags." ++ tagName ++ " = "

/-- The query `SELECT * FROM devices WHERE tags.<tagName> = <tagValue>`, whose last token
is the one literal -/
def tagQuery (tagName tagValue : String) : List Token :=
  (beforeValue tagName).toList.map .code ++ [.literal tagValue.toList]

/-- The registry of the devices, as the queries see it -/
structure QueryRegistry (Twin : Type) where
  /-- How the texts of the queries are read -/
  quoting : Quoting
  /-- The string that is the value of a tag -/
  tag : Twin → String → Option String
  /-- The pages of the answer to a query, by the tokens of its text; `none` when the query
  is not accepted -/
  answer : List Token → List Twin → Option (List (List Twin))
  /-- The query for a tag selects the devices with the value, in any order. -/
  byTag : ∀ tagName tagValue twins, isTagPath tagName →
    ∃ pages, answer (tagQuery tagName tagValue) twins = some pages ∧
      pages.flatten.Perm (twins.filter fun twin => tag twin tagName = some tagValue)

variable {Twin : Type} (registry : QueryRegistry Twin)

/-- The devices that have the value of the tag -/
def QueryRegistry.tagged (tagName tagValue : String) (twins : List Twin) : List Twin :=
  twins.filter fun twin => registry.tag twin tagName = some tagValue

/-! ## The source -/

/-- `while (queryResult.hasMoreResults)`: the results so far and the pages that are left. -/
def collectPages (results : List Twin) : List (List Twin) → List Twin
  | [] => results
  | page :: more => collectPages (results ++ page) more

/-- `queryDevices`; `none` where it throws. -/
def queryDevices (query : String) (twins : List Twin) : Option (List Twin) := do
  let tokens ← registry.quoting.tokens query.toList
  let pages ← registry.answer tokens twins
  return collectPages [] pages

/-- The text of the query in `getHubsByTag` -/
def hubsByTagQuery (tagName tagValue : String) : String :=
  "SELECT * FROM devices WHERE tags." ++ tagName ++ " = '" ++ tagValue ++ "'"

/-- `getHubsByTag` -/
def getHubsByTag (tagName tagValue : String) (twins : List Twin) : Option (List Twin) :=
  queryDevices registry (hubsByTagQuery tagName tagValue) twins

/-! ## What it selects -/

/-- The query of `getHubsByTag` is the one for the tag and the value. -/
structure QueriesTag (tagName tagValue : String) : Prop where
  /-- (1) The tokens of its text are those of the query: nothing is after the literal. -/
  tokens : registry.quoting.tokens (hubsByTagQuery tagName tagValue).toList =
    some (tagQuery tagName tagValue)
  /-- (2) What is returned are the devices with the value. -/
  selects : isTagPath tagName → ∀ twins, ∃ hubs,
    getHubsByTag registry tagName tagValue twins = some hubs ∧
      hubs.Perm (registry.tagged tagName tagValue twins)

/-- The loop of `queryDevices` returns all pages. -/
theorem collectPages_eq (results : List Twin) (pages : List (List Twin)) :
    collectPages results pages = results ++ pages.flatten := by
  induction pages generalizing results with
  | nil => simp [collectPages]
  | cons page more ih => simp [collectPages, ih]

/-- Text around a value, the last character before it and the only one after it a quote -/
theorem toList_append_quote {before opening closing : String} (tagName value : String)
    {equals : String} (hopen : opening.toList = equals.toList ++ ['\''])
    (hclose : closing.toList = ['\'']) :
    (before ++ tagName ++ opening ++ value ++ closing).toList =
      (before ++ tagName ++ equals).toList ++ quote value.toList := by
  simp [hopen, hclose, quote]

/-- The text of the query is its code and the value between quotes. -/
theorem toList_hubsByTagQuery (tagName tagValue : String) :
    (hubsByTagQuery tagName tagValue).toList =
      (beforeValue tagName).toList ++ quote tagValue.toList :=
  toList_append_quote tagName tagValue (by simp) (by simp)

/-- A query with the tokens of the one for the tag selects the devices with the value. -/
theorem queryDevices_of_tokens {tagName tagValue query : String}
    (htokens : registry.quoting.tokens query.toList = some (tagQuery tagName tagValue))
    (hname : isTagPath tagName) (twins : List Twin) :
    ∃ hubs, queryDevices registry query twins = some hubs ∧
      hubs.Perm (registry.tagged tagName tagValue twins) := by
  obtain ⟨pages, hpages, hperm⟩ := registry.byTag tagName tagValue twins hname
  refine ⟨pages.flatten, ?_, hperm⟩
  simp [queryDevices, htokens, hpages, collectPages_eq]

theorem quote_not_mem_beforeValue (tagName : String) :
    '\'' ∉ (beforeValue tagName).toList ↔ '\'' ∉ tagName.toList := by
  have haround : ∀ {before after : String}, '\'' ∉ before.toList → '\'' ∉ after.toList →
      ('\'' ∉ (before ++ tagName ++ after).toList ↔ '\'' ∉ tagName.toList) := by
    intro before after hbefore hafter
    simp [hbefore, hafter]
  exact haround (by simp) (by simp)

/-- **The query of `getHubsByTag` is the one for the tag and the value exactly when the
name has no quote and the value neither a quote nor the character that escapes it.** -/
theorem queriesTag_iff (tagName tagValue : String) :
    QueriesTag registry tagName tagValue ↔
      '\'' ∉ tagName.toList ∧ '\'' ∉ tagValue.toList ∧
        registry.quoting.escaping.mark ∉ tagValue.toList := by
  have htokens := registry.quoting.tokens_quote_iff (beforeValue tagName).toList tagValue.toList
  rw [← toList_hubsByTagQuery, quote_not_mem_beforeValue] at htokens
  constructor
  · intro h
    exact htokens.mp h.tokens
  · intro h
    exact ⟨htokens.mpr h, queryDevices_of_tokens registry (htokens.mpr h)⟩

/-! ## A value that is a part of the query -/

/-- A hub with the strings of its tags -/
structure TaggedHub where
  deviceId : String
  tags : List (String × String)
  deriving DecidableEq

/-- The string that is the value of a tag -/
def TaggedHub.tag (hub : TaggedHub) (name : String) : Option String :=
  (hub.tags.find? fun entry => entry.1 = name).map Prod.snd

/-- The literals of a query, each with the code before it, and the code after the last one -/
def splitLiterals (code : List Char) : List Token → List (List Char × List Char) × List Char
  | [] => ([], code)
  | .code c :: ts => splitLiterals (code ++ [c]) ts
  | .literal v :: ts => ((code, v) :: (splitLiterals [] ts).1, (splitLiterals [] ts).2)

/-- The name of the tag in the query up to the value -/
def selectedTag (code : List Char) : Option String :=
  let name := String.ofList ((code.take (code.length - 3)).drop 33)
  if code = (beforeValue name).toList then some name else none

/-- Whether one of the conditions ` OR <literal> = <literal>` holds -/
def orLiterals : List (List Char × List Char) → Option Bool
  | [] => some false
  | (or, v) :: (eq, w) :: more =>
    if or = " OR ".toList ∧ eq = " = ".toList then
      (orLiterals more).map fun any => decide (v = w) || any
    else none
  | [_] => none

/-- The answer to a query for a tag, with comparisons of literals after it -/
def answerTagQuery (tokens : List Token) (hubs : List TaggedHub) :
    Option (List (List TaggedHub)) :=
  match splitLiterals [] tokens with
  | ((code, value) :: more, []) => do
    let name ← selectedTag code
    let any ← orLiterals more
    return [hubs.filter fun hub => any || hub.tag name = some (String.ofList value)]
  | _ => none

theorem splitLiterals_code (code cs : List Char) (ts : List Token) :
    splitLiterals code (cs.map .code ++ ts) = splitLiterals (code ++ cs) ts := by
  induction cs generalizing code with
  | nil => simp
  | cons c cs ih => simp [splitLiterals, ih]

theorem selectedTag_beforeValue (tagName : String) :
    selectedTag (beforeValue tagName).toList = some tagName := by
  have haround : ∀ {before after : String}, before.toList.length = 33 →
      after.toList.length = 3 →
      ((before ++ tagName ++ after).toList.take
        ((before ++ tagName ++ after).toList.length - 3)).drop 33 = tagName.toList := by
    intro before after hbefore hafter
    rw [String.toList_append, List.length_append, hafter, Nat.add_sub_cancel, List.take_left,
      String.toList_append, List.drop_left' hbefore]
  have hname : ((beforeValue tagName).toList.take
      ((beforeValue tagName).toList.length - 3)).drop 33 = tagName.toList :=
    haround (by simp) (by simp)
  unfold selectedTag
  dsimp only
  rw [hname, String.ofList_toList, if_pos rfl]

theorem answerTagQuery_tagQuery (tagName tagValue : String) (hubs : List TaggedHub) :
    answerTagQuery (tagQuery tagName tagValue) hubs
      = some [hubs.filter fun hub => hub.tag tagName = some tagValue] := by
  have hsplit : splitLiterals [] (tagQuery tagName tagValue)
      = ([((beforeValue tagName).toList, tagValue.toList)], []) := by
    rw [tagQuery, splitLiterals_code]
    rfl
  rw [answerTagQuery, hsplit]
  simp only [selectedTag_beforeValue, orLiterals, Option.bind_eq_bind, Option.bind_some,
    Bool.false_or, String.ofList_toList]
  rfl

/-- A registry that answers the queries for a tag, with comparisons of literals after them -/
def tagRegistry : QueryRegistry TaggedHub where
  quoting := .backslash
  tag := TaggedHub.tag
  answer := answerTagQuery
  byTag tagName tagValue hubs _ :=
    ⟨_, answerTagQuery_tagQuery tagName tagValue hubs, by simp⟩

/-- The hubs of two customers -/
def customerHubs : List TaggedHub :=
  [⟨"hub-1", [("customer", "acme")]⟩, ⟨"hub-2", [("customer", "other")]⟩]

/-- For the value `x' OR 'a' = 'a` the hubs of all customers are returned, although no hub
has it. -/
theorem all_hubs_returned :
    ¬ QueriesTag tagRegistry "customer" "x' OR 'a' = 'a" ∧
      getHubsByTag tagRegistry "customer" "x' OR 'a' = 'a" customerHubs = some customerHubs := by
  constructor
  · intro h
    exact absurd h.tokens (by decide +kernel)
  · decide +kernel

end SensorNet.Backend
