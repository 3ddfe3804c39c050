import SchemaRules.Proofs.Naming.Idempotence
import SchemaRules.Proofs.Naming.Words

/-!
# The letters of a name

Naming an ASCII property leaves out what separates words, changes the case of the heads of words and
puts a mark before the name. Its letters, digits and `$` all stay, in their order. So properties that
share a field differ in nothing else.

* `map_toLower_camelCase`, `map_toLower_lowerHead`: the case aside, words are joined as they are.
* `letters`: what a name has beside separators, illegal characters and case.
* `map_toLower_normalize`: the letters of an identifier, for any delimiters with `_` among them.
* `normalize_keeps_letters`: the same for those of a configuration in which nothing is set.
-/

namespace SchemaRules.Naming

/-! ## Case aside -/

section

variable {name : List Char}

theorem map_toLower_capitalize (h : ∀ c ∈ name, c.toNat < 128) :
    (capitalize name).map Char.toLower = name.map Char.toLower := by
  cases name with
  | nil => rfl
  | cons head rest =>
    have hhead := h head List.mem_cons_self
    rw [capitalize, upperCase_ascii hhead, List.singleton_append, List.map_cons, List.map_cons,
      (toLower_otherCase_ascii hhead).1]

theorem map_toLower_camelCase {ws : List (List Char)}
    (h : ∀ word ∈ ws, ∀ c ∈ word, c.toNat < 128) :
    (camelCase ws).map Char.toLower = ws.flatten.map Char.toLower := by
  cases ws with
  | nil => rfl
  | cons first others =>
    have hothers : (others.flatMap capitalize).map Char.toLower
        = others.flatten.map Char.toLower := by
      rw [List.map_flatMap, List.map_flatten, List.flatMap_def]
      exact congrArg List.flatten (List.map_congr_left fun word hword =>
        map_toLower_capitalize (h word (List.mem_cons_of_mem _ hword)))
    rw [camelCase, List.map_append, hothers, List.flatten_cons, List.map_append]

theorem map_toLower_lowerHead (h : ∀ c ∈ name, c.toNat < 128) :
    (lowerHead name).map Char.toLower = name.map Char.toLower := by
  cases name with
  | nil => rfl
  | cons head rest =>
    have hhead := h head List.mem_cons_self
    rw [lowerHead]
    split
    · rw [lowerCase_ascii hhead, List.singleton_append, List.map_cons, List.map_cons,
        (toLower_otherCase_ascii hhead).2]
    · rfl

theorem filter_mark (name : List Char) :
    (mark name).filter (· != '_') = name.filter (· != '_') := by
  rw [mark]
  split <;> rfl

end

/-! ## Identifiers -/

variable {delimiters : List Char} {raw : String}

/-- Where `_` is a delimiter, an identifier has no `_` but its mark, and the rest of it is, the case
aside, what the words of the property name hold. -/
theorem map_toLower_normalize (hunderscore : '_' ∈ delimiters)
    (hdelimiters : ∀ d ∈ delimiters, isAlphanumeric d = false)
    (hraw : ∀ c ∈ raw.toList, c.toNat < 128) :
    ((normalize delimiters raw).toList.filter (· != '_')).map Char.toLower
      = (raw.toList.filter (isWordChar delimiters)).map Char.toLower := by
  have hjoined := plainAscii_of_mem_camelCase hdelimiters hraw
  have hsettled := plainAscii_of_mem_lowerHead hdelimiters hraw
  have hflatten := flatten_runs (isWordChar delimiters) raw.toList
  rw [words_replaceIllegal hunderscore] at hjoined hsettled
  have hunmarked : ∀ c ∈ lowerHead (camelCase (runs (isWordChar delimiters) raw.toList)),
      (c != '_') = true := by
    intro c hc
    rw [bne_iff_ne]
    rintro rfl
    have hin := (hsettled _ hc).inWord
    rw [List.contains_iff_mem.2 hunderscore] at hin
    cases hin
  have hwords : ∀ word ∈ runs (isWordChar delimiters) raw.toList, ∀ c ∈ word, c.toNat < 128 := by
    intro word hword c hc
    have hmem : c ∈ (runs (isWordChar delimiters) raw.toList).flatten :=
      List.mem_flatten.2 ⟨word, hword, hc⟩
    rw [hflatten] at hmem
    exact hraw c (List.mem_filter.1 hmem).1
  rw [toList_normalize_eq_runs hunderscore, filter_mark, List.filter_eq_self.2 hunmarked,
    map_toLower_lowerHead fun c hc => (hjoined c hc).ascii, map_toLower_camelCase hwords, hflatten]

/-- The letters, digits and `$` of a name in their order, all in lower case. -/
def letters (name : String) : List Char :=
  (name.toList.filter fun c => c.isAlphanum || c == '$').map Char.toLower

/-- Where words are separated as they are by default, they are made of letters, digits and `$`. -/
theorem isWordChar_default {c : Char} (hc : c.toNat < 128) :
    isWordChar ({} : Config).wordDelimiters c = (c.isAlphanum || c == '$') := by
  rw [isWordChar, isAlphanumeric_ascii hc]
  exact beq_iff_eq.1 (forall_char_lt
    (p := fun c => ((c.isAlphanum || c == '$') && !(['-', '_'].contains c))
      == (c.isAlphanum || c == '$')) (by decide +kernel) hc)

theorem not_isAlphanumeric_of_mem_default :
    ∀ d ∈ ({} : Config).wordDelimiters, isAlphanumeric d = false := by
  have hall : (({} : Config).wordDelimiters.all fun d => !isAlphanumeric d) = true := by
    decide +kernel
  intro d hd
  simpa using List.all_eq_true.1 hall d hd

/-- Naming an ASCII property loses, adds and moves no letter, digit or `$`. So two properties that
are given one field by their names differ only in what separates words, in illegal characters and in
case. -/
theorem normalize_keeps_letters (raw : String) (hraw : ∀ c ∈ raw.toList, c.toNat < 128) :
    ((normalize ({} : Config).wordDelimiters raw).toList.filter (· != '_')).map Char.toLower
        = letters raw ∧
      ∀ (other : String) (node otherNode : Option Node), (∀ c ∈ other.toList, c.toNat < 128) →
        explicitName? node = none → explicitName? otherNode = none →
        Config.resolver {} raw node = Config.resolver {} other otherNode →
        letters raw = letters other := by
  have hkept : ∀ name : String, (∀ c ∈ name.toList, c.toNat < 128) →
      ((normalize ({} : Config).wordDelimiters name).toList.filter (· != '_')).map Char.toLower
        = letters name := by
    intro name hname
    rw [map_toLower_normalize (by decide) not_isAlphanumeric_of_mem_default hname, letters,
      List.filter_congr fun c hc => isWordChar_default (hname c hc)]
  refine ⟨hkept raw hraw, fun other node otherNode hother hnode hotherNode hfield => ?_⟩
  have hsame : normalize ({} : Config).wordDelimiters raw
      = normalize ({} : Config).wordDelimiters other := by
    simpa [Config.resolver, propertyName, hnode, hotherNode] using hfield
  rw [← hkept raw hraw, hsame, hkept other hother]

/-- A mark before a digit, a head in lower case and one in upper case: the letters stay, and another
spelling of them is the same field. -/
theorem normalize_keeps_letters_marked :
    let node : Node := .object [("type", .scalar (.string "string"))]
    ((∀ c ∈ "2nd_HTTP-url$".toList, c.toNat < 128) ∧
        (∀ c ∈ "%2nd.hTTP%%Url$".toList, c.toNat < 128) ∧ explicitName? (some node) = none ∧
        explicitName? none = none ∧ Config.resolver {} "2nd_HTTP-url$" (some node) = "_2ndHTTPUrl$" ∧
        Config.resolver {} "%2nd.hTTP%%Url$" none = "_2ndHTTPUrl$") ∧
      ("_2ndHTTPUrl$".toList.filter (· != '_')).map Char.toLower = letters "2nd_HTTP-url$" ∧
      letters "2nd_HTTP-url$" = letters "%2nd.hTTP%%Url$" := by
  intro node
  have hraw : ∀ c ∈ "2nd_HTTP-url$".toList, c.toNat < 128 := by simp
  have hother : ∀ c ∈ "%2nd.hTTP%%Url$".toList, c.toNat < 128 := by simp
  have hname : normalize ({} : Config).wordDelimiters "2nd_HTTP-url$" = "_2ndHTTPUrl$" := by
    decide +kernel
  have hotherName : normalize ({} : Config).wordDelimiters "%2nd.hTTP%%Url$" = "_2ndHTTPUrl$" := by
    decide +kernel
  have hfield : Config.resolver {} "2nd_HTTP-url$" (some node) = "_2ndHTTPUrl$" := hname
  have hotherField : Config.resolver {} "%2nd.hTTP%%Url$" none = "_2ndHTTPUrl$" := hotherName
  obtain ⟨hletters, hsame⟩ := normalize_keeps_letters "2nd_HTTP-url$" hraw
  rw [hname] at hletters
  exact ⟨⟨hraw, hother, rfl, rfl, hfield, hotherField⟩, hletters,
    hsame _ (some node) none hother rfl rfl (hfield.trans hotherField.symm)⟩

end SchemaRules.Naming
