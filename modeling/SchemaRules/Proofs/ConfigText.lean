import SchemaRules.Proofs.Json.Numerals
import SchemaRules.Proofs.Json.Records
import SchemaRules.Proofs.Loading

/-!
# The text of a configuration

A configuration is read again from the texts that are written of it. Any other text may give some
of the settings, in any order and among entries that nobody asks for, and the settings that it does
not give have their defaults. Then it is checked: what cannot be used is refused, wherever it comes
from.

* `Config.reads`: what spells a configuration is read as all its settings.
* `Config.Draft.Writes`: a text gives the settings of a draft and no others.
* `Config.Draft.read_written`: it is read as the draft's settings and the defaults.
* `Config.validated`: what becomes of a configuration that is read.
* `FileSystem.configAt_outcomes`: the configuration in a file.
-/

namespace SchemaRules

open Json (Blank Column EntryPart Held Literal Reads Spells WritesList WritesRecord)

/-! ## Policies -/

namespace Policy

/-- A text writes a policy: its name, or an object with the name for its only key. -/
inductive Writes (p : Policy) : List Char → Prop where
  | bare {text : List Char} (h : Literal p.name text) : Writes p text
  | object {part body : List Char} (hpart : EntryPart p.name ['n', 'u', 'l', 'l'] part)
      (hheld : Held '\x7d' true [part] body) : Writes p ('\x7b' :: body)

theorem reads_written {p : Policy} {text : List Char} (h : p.Writes text) :
    Reads (Json.variant variants) text p := by
  cases h with
  | bare h => cases p <;> exact Json.variant_reads_bare rfl rfl h
  | object hpart hheld =>
    have hunit := Json.unit_reads.map fun _ => p
    cases p <;> exact Json.variant_reads_object rfl hpart hheld hunit

end Policy

namespace Config

/-! ## Reading what is spelled -/

theorem reads {c : Config} {text : List Char} (h : Spells c.toValue text) :
    Reads (Json.record layout) text
      ⟨some c.ignoreKeyword, some c.wordDelimiters, some c.policy, some c.maxSize⟩ := by
  have hfills : layout.Fills {} [("ignoreKeyword", .string c.ignoreKeyword),
      ("propertyWordDelimiters", .array (c.wordDelimiters.map fun d => .string (String.ofList [d]))),
      ("identifierPolicy", .string c.policy.name),
      ("maxSchemaSize", .scalar (.number (.int c.maxSize.toNat)))]
      ⟨some c.ignoreKeyword, some c.wordDelimiters, some c.policy, some c.maxSize⟩ :=
    .cons rfl rfl (fun _ ht => (Json.string_reads_spelled ht).map _) <|
    .cons rfl rfl (fun _ ht => (Json.listOf_reads_spelled
      (fun _ _ _ hd => Json.character_reads (Json.spells_string.1 hd)) ht).map _) <|
    .cons rfl rfl (fun _ ht => (Policy.reads_written (.bare (Json.spells_string.1 ht))).map _) <|
    .cons rfl rfl (fun _ ht => by
      rw [Spells] at ht
      subst ht
      exact (Json.count_reads c.maxSize).map _) .nil
  exact Json.record_reads_spelled hfills rfl h

/-- A text that spells a configuration is read as it, whether it can be used or not. -/
theorem read_of_spells {c : Config} {source : String} (h : Spells c.toValue source.toList) :
    read source = .ok c :=
  ((reads h).map Draft.toConfig).read .nil .nil (by simp)

/-! ## Reading what is written -/

namespace Draft

/-- The fields of a configuration's record, of which those are given that the draft has. -/
def columns (d : Draft) : List Column :=
  [.optional "ignoreKeyword" d.ignoreKeyword Literal,
   .optional "propertyWordDelimiters" d.wordDelimiters
      (WritesList fun c => Literal (String.ofList [c])),
   .optional "identifierPolicy" d.policy Policy.Writes,
   .optional "maxSchemaSize" d.maxSize fun n text => text = Nat.toDigits 10 n.toNat]

/-- A text gives the settings that a draft has and no others, between blanks. -/
def Writes (d : Draft) (text : List Char) : Prop :=
  ∃ w record w', Blank w ∧ Blank w' ∧ WritesRecord d.columns record ∧ text = w ++ (record ++ w')

/-- A draft of which some keys have been read. -/
def seen (d : Draft) (keys : List String) : Draft where
  ignoreKeyword := if "ignoreKeyword" ∈ keys then some d.toConfig.ignoreKeyword else none
  wordDelimiters := if "propertyWordDelimiters" ∈ keys then some d.toConfig.wordDelimiters else none
  policy := if "identifierPolicy" ∈ keys then some d.toConfig.policy else none
  maxSize := if "maxSchemaSize" ∈ keys then some d.toConfig.maxSize else none

theorem delimiters_reads {cs : List Char} {text : List Char}
    (h : WritesList (fun c => Literal (String.ofList [c])) cs text) :
    Reads (Json.listOf "a sequence" Json.character) text cs := by
  rw [← List.map_id cs]
  exact Json.listOf_reads_written (fun _ _ hc => Json.character_reads hc) h

theorem layout_takes (d : Draft) : layout.Takes d.columns d.seen := by
  refine ⟨rfl, .cons ?_ <| .cons ?_ <| .cons ?_ <| .cons ?_ .nil⟩
  · refine .of_reads_optional ({} : Config).ignoreKeyword (fun _ => isSome_ite _ _)
      (fun _ _ h => Json.string_reads h) fun keys => ?_
    simp [seen, toConfig]
  · refine .of_reads_optional ({} : Config).wordDelimiters (fun _ => isSome_ite _ _)
      (fun _ _ h => delimiters_reads h) fun keys => ?_
    simp [seen, toConfig]
  · refine .of_reads_optional ({} : Config).policy (fun _ => isSome_ite _ _)
      (fun _ _ h => Policy.reads_written h) fun keys => ?_
    simp [seen, toConfig]
  · refine .of_reads_optional ({} : Config).maxSize (fun _ => isSome_ite _ _)
      (fun n _ h => h ▸ Json.count_reads n) fun keys => ?_
    simp [seen, toConfig]

/-- What was left out has its default, so nothing is lost with it. -/
theorem toConfig_seen (d : Draft) {keys : List String}
    (hkeys : ∀ column ∈ d.columns, column.key ∈ keys ∨ column.omissible) :
    (d.seen keys).toConfig = d.toConfig := by
  simp only [columns, Column.optional, List.forall_mem_cons] at hkeys
  obtain ⟨hkeyword, hdelimiters, hpolicy, hsize, -⟩ := hkeys
  simp only [toConfig, seen, getD_ite_getD hkeyword, getD_ite_getD hdelimiters,
    getD_ite_getD hpolicy, getD_ite_getD hsize]

/-- A text that gives some settings, in whatever way, is read as them and the defaults. -/
theorem read_written {d : Draft} {source : String} (h : d.Writes source.toList) :
    read source = .ok d.toConfig := by
  obtain ⟨w, record, w', hw, hw', hrecord, hsource⟩ := h
  have hkeys : (d.columns.map Column.key).Nodup := by
    show ["ignoreKeyword", "propertyWordDelimiters", "identifierPolicy", "maxSchemaSize"].Nodup
    decide
  obtain ⟨keys, hgiven, hreads⟩ := Json.record_reads_written d.layout_takes hkeys hrecord
  rw [← d.toConfig_seen hgiven]
  exact (hreads.map toConfig).read hw hw' hsource

end Draft

/-! ## Checking -/

/-- A configuration that can be used, or the error that says why it cannot. -/
def validated (c : Config) : Except Error Config :=
  (c.check.map fun _ => c).mapError .badConfig

theorem check_eq_ok_iff {c : Config} :
    c.check = .ok () ↔ c.ignoreKeyword ≠ "" ∧ c.maxSize ≠ 0 := by
  unfold check
  split
  · next hkeyword => simp [hkeyword]
  · next hkeyword =>
    split
    · next hsize => simp [hsize]
    · next hsize => simp [hkeyword, hsize]

end Config

/-! ## Files -/

namespace FileSystem

variable {fs : FileSystem} {p : Path} {c : Config}

/-- The configuration in a file is the one that its text is read as, if it can be used. -/
theorem configAt_of_read {text : String} (hfile : fs.read p = .ok text.toUTF8)
    (hread : Config.read text = .ok c) : fs.configAt p = c.validated := by
  rw [configAt_eq, hfile, Source.textOf_toUTF8, Source.configOf, hread]
  rfl

/-- Whatever a file holds, a configuration that is loaded from it can be used. -/
theorem usable_of_configAt (h : fs.configAt p = .ok c) : c.ignoreKeyword ≠ "" ∧ c.maxSize ≠ 0 := by
  obtain ⟨_, -, -, hcheck⟩ := configAt_eq_ok_iff.1 h
  exact Config.check_eq_ok_iff.1 hcheck

/-- A configuration is loaded from a file with either of its texts, and a draft with its defaults
from a file with any text that writes the draft, if it can be used. What is loaded from any file can
be used. -/
theorem configAt_outcomes (fs : FileSystem) (p : Path) :
    (∀ (c : Config) (text : String), text = c.compact ∨ text = c.toValue.pretty →
      fs.read p = .ok text.toUTF8 → fs.configAt p = c.validated) ∧
    (∀ (d : Config.Draft) (text : String), d.Writes text.toList →
      fs.read p = .ok text.toUTF8 → fs.configAt p = d.toConfig.validated) ∧
    ∀ c, fs.configAt p = .ok c → c.ignoreKeyword ≠ "" ∧ c.maxSize ≠ 0 := by
  refine ⟨fun c text htext hfile => ?_, fun d text hwrites hfile => ?_, fun c => usable_of_configAt⟩
  · refine configAt_of_read hfile (Config.read_of_spells ?_)
    rcases htext with rfl | rfl
    · rw [Config.compact, Json.Value.compact, String.toList_ofList]
      exact Json.spells_print c.toValue
    · rw [Json.Value.pretty, String.toList_ofList]
      exact Json.spells_printPretty 0 c.toValue
  · exact configAt_of_read hfile (Config.Draft.read_written hwrites)

/-! ### A partial text

The policy is written as an object. A key that nobody asks for comes twice, and another one is that
of the size but for the case of a letter. -/

/-- The settings that the text gives. -/
def partialDraft : Config.Draft where
  ignoreKeyword := some "skip"
  policy := some .strict

/-- The entries of the text. -/
def partialEntries : List (String × List Char) :=
  [("x", "[]".toList), ("identifierPolicy", "\x7b\"strict\":null\x7d".toList),
    ("x", "true".toList), ("MaxSchemaSize", "null".toList), ("ignoreKeyword", Json.quote "skip")]

def partialText : List Char :=
  ' ' :: '\x7b' :: Json.separated [',']
    (partialEntries.map fun e => Json.quote e.1 ++ ':' :: ([' '] ++ e.2)) ++ ['\x7d', '\n']

theorem writes_partial : partialDraft.Writes partialText := by
  have hpolicy : Policy.Writes .strict "\x7b\"strict\":null\x7d".toList :=
    .object (Json.entryPart_quote "strict" .nil _) (Json.held_compact '\x7d' _)
  have hempty : Json.IsValue "[]".toList := .array (List.forall_mem_nil _) (.close .nil)
  have hgives : Json.GivesFields partialDraft.columns partialEntries := {
    once := by decide
    known := by
      simpa [Config.Draft.columns, Column.optional, partialEntries, partialDraft] using
        ⟨hpolicy, Json.literal_quote "skip"⟩
    unknown := by
      simpa [Config.Draft.columns, Column.optional, partialEntries] using
        ⟨hempty, .isTrue, .null⟩
    complete := by simp [Config.Draft.columns, Column.optional, partialEntries, partialDraft] }
  refine ⟨[' '], _, ['\n'], by decide, by decide, .object hgives (List.forall₂_map_right_iff.2
    (List.forall₂_same.2 fun e _ => Json.entryPart_quote e.1 (w := [' ']) (by decide) e.2))
    (Json.held_compact '\x7d' _), rfl⟩

/-- A directory with one file. -/
def holding (content : ByteArray) : FileSystem where
  entries := [([[0x63]], .file content)]
  workingDirectory := []
  sound := List.forall_mem_singleton.2
    ⟨List.cons_ne_nil _ _, show Fits [[0x63]] by decide, rfl⟩
  working := rfl

theorem read_holding (content : ByteArray) :
    (holding content).read (Path.ofString "c") = .ok content := by
  rfl

/-- The keyword and the policy are those of the text, and the rest has its defaults. Without a
keyword the configuration is refused, whatever file it comes from. -/
theorem configAt_outcomes_partial :
    let c : Config := ⟨"skip", ['-', '_'], .strict, 10485760⟩
    let bad : Config := ⟨"", ['\\', '"', '\x00'], .legacy, 0⟩
    let place := Path.ofString "c"
    partialDraft.Writes partialText ∧
      (holding (String.ofList partialText).toUTF8).configAt place = .ok c ∧
      (holding c.compact.toUTF8).configAt place = .ok c ∧
      (holding bad.toValue.pretty.toUTF8).configAt place = .error (.badConfig .emptyKeyword) := by
  intro c bad place
  have hwrites : partialDraft.Writes (String.ofList partialText).toList := by
    rw [String.toList_ofList]
    exact writes_partial
  refine ⟨writes_partial, ?_, ?_, ?_⟩
  · exact (configAt_outcomes _ place).2.1 _ _ hwrites (read_holding _)
  · exact (configAt_outcomes _ place).1 c _ (.inl rfl) (read_holding _)
  · exact (configAt_outcomes _ place).1 bad _ (.inr rfl) (read_holding _)

end FileSystem

end SchemaRules
