import SchemaRules.Proofs.Loading
import SchemaRules.Proofs.Schemes

/-!
# Documents and their size

A loader looks for faults in a fixed order: the file cannot be read, it is not UTF-8, it has more
bytes than the limit. Only then is its text read as a document. So the limit decides nothing but
whether a document is refused for its size, and a greater limit keeps every other answer.

* `Error.OfText`, `Error.ReportedAs`: errors in a text, and the kind with which a report begins.
* `Source.Answer`: what a loader answers, told from what the file holds; `Source.answer_iff`: the
  loaders answer this and nothing else.
* `Source.Answer.raise`: a greater limit keeps an answer that is no refusal.
* `Locator.LeadsTo`: a locator and the file behind it; `Source.locate_of_leadsTo`: that file is the
  one that is read.
* `Source.Limited`: how a loader depends on its limit; `Source.limited_loaders`: schemas and models.
-/

namespace SchemaRules

/-! ## Errors -/

namespace Error

/-- An error that the text of a document causes. -/
inductive OfText : Error → Prop
  | json (error : Json.ReadError) : OfText (.json error)
  | duplicateField (field model : String) : OfText (.duplicateField field model)

/-- The report of an error begins with its kind. -/
def ReportedAs (e : Error) (kind : String) : Prop :=
  ∃ detail, e.message = kind ++ detail

theorem reportedAs_unreadable (p : Path) (fault : FileFault) :
    (unreadable p fault).ReportedAs "resource error: " := by
  have hkind : "resource error: Failed to read file '" =
      "resource error: " ++ "Failed to read file '" := by decide
  refine ⟨"Failed to read file '" ++ p.display ++ "': " ++ fault.message, ?_⟩
  unfold message
  dsimp only
  rw [hkind]
  simp only [String.append_assoc]

theorem reportedAs_tooLarge (size : Nat) (limit : UInt64) :
    (tooLarge size limit).ReportedAs "resource error: " := by
  have hkind : "resource error: Document size " = "resource error: " ++ "Document size " := by
    decide
  refine ⟨"Document size " ++ Nat.repr size ++ " bytes exceeds maximum "
      ++ Nat.repr limit.toNat ++ " bytes", ?_⟩
  unfold message
  dsimp only
  rw [hkind]
  simp only [String.append_assoc]

theorem OfText.reportedAs {e : Error} (h : e.OfText) : e.ReportedAs "JSON error: " := by
  unfold ReportedAs message
  cases h with
  | json error => exact ⟨_, rfl⟩
  | duplicateField field model => exact ⟨_, rfl⟩

end Error

namespace Source

variable {α : Type} {parse : String → Except Error α} {p : Path} {k k' : UInt64}
  {content : Except FileFault ByteArray} {answer : Except Error α}

/-! ## One run -/

/-- The answer of a loader to what reading the file at a path gives. A fault comes before those
below it, whatever the text would be read as. -/
inductive Answer (parse : String → Except Error α) (p : Path) (limit : UInt64) :
    Except FileFault ByteArray → Except Error α → Prop
  | unreadable (fault : FileFault) :
    Answer parse p limit (.error fault) (.error (.unreadable p fault))
  | notUtf8 {bytes : ByteArray} (h : ¬bytes.IsValidUTF8) :
    Answer parse p limit (.ok bytes) (.error (.unreadable p .notUtf8))
  | tooLarge {text : String} (h : limit.toNat < text.utf8ByteSize) :
    Answer parse p limit (.ok text.toUTF8) (.error (.tooLarge text.utf8ByteSize limit))
  | parsed {text : String} (h : text.utf8ByteSize ≤ limit.toNat) :
    Answer parse p limit (.ok text.toUTF8) (parse text)

/-- The relation has exactly one answer, and it is the one that is computed. -/
theorem answer_iff :
    Answer parse p k content answer ↔ (documentOf k p (textOf content)).bind parse = answer := by
  constructor
  · intro h
    cases h with
    | unreadable fault => rfl
    | notUtf8 h =>
      rw [textOf_of_not_valid h]
      rfl
    | tooLarge h =>
      rw [textOf_toUTF8, documentOf, if_pos h]
      rfl
    | parsed h =>
      rw [textOf_toUTF8, documentOf, if_neg (Nat.not_lt.2 h)]
      rfl
  · -- Each content has one constructor for it, so nothing else can be answered.
    rintro rfl
    cases content with
    | error fault => exact .unreadable fault
    | ok bytes =>
      by_cases hvalid : bytes.IsValidUTF8
      · obtain ⟨text, rfl⟩ : ∃ text : String, bytes = text.toUTF8 :=
          ⟨.ofByteArray bytes hvalid, rfl⟩
        rw [textOf_toUTF8, documentOf]
        by_cases hsize : k.toNat < text.utf8ByteSize
        · rw [if_pos hsize]
          exact .tooLarge hsize
        · rw [if_neg hsize]
          exact .parsed (Nat.not_lt.1 hsize)
      · rw [textOf_of_not_valid hvalid]
        exact .notUtf8 hvalid

theorem Answer.unique {other : Except Error α} (h : Answer parse p k content answer)
    (h' : Answer parse p k content other) : other = answer :=
  (answer_iff.1 h').symm.trans (answer_iff.1 h)

/-! ## Two runs -/

/-- A document is refused for its size. -/
def Refused (answer : Except Error α) : Prop :=
  ∃ size limit, answer = .error (.tooLarge size limit)

/-- Neither a document nor an error in its text is a refusal. -/
theorem not_refused (h : ∀ e, answer = .error e → e.OfText) : ¬Refused answer := by
  rintro ⟨size, limit, rfl⟩
  cases h _ rfl

/-- A greater limit keeps an answer that is no refusal. -/
theorem Answer.raise (h : Answer parse p k content answer) (hk : k ≤ k')
    (hanswer : ¬Refused answer) : Answer parse p k' content answer := by
  -- Only a size is compared with the limit: the faults before it are the same under any other.
  cases h with
  | unreadable fault => exact .unreadable fault
  | notUtf8 h => exact .notUtf8 h
  | tooLarge h => exact absurd ⟨_, _, rfl⟩ hanswer
  | parsed h => exact .parsed (h.trans (UInt64.le_iff_toNat_le.1 hk))

/-- A fault of the file is one of the resource, and an error in its text one of JSON. -/
theorem Answer.reportedAs {e : Error} (h : Answer parse p k content answer)
    (hparse : ∀ text e, parse text = .error e → e.OfText) (he : answer = .error e) :
    e.ReportedAs "resource error: " ∨ e.OfText ∧ e.ReportedAs "JSON error: " := by
  cases h with
  | unreadable fault =>
    cases he
    exact .inl (Error.reportedAs_unreadable p fault)
  | notUtf8 h =>
    cases he
    exact .inl (Error.reportedAs_unreadable p .notUtf8)
  | tooLarge h =>
    cases he
    exact .inl (Error.reportedAs_tooLarge _ k)
  | parsed h =>
    have htext := hparse _ _ he
    exact .inr ⟨htext, htext.reportedAs⟩

theorem Answer.refused_iff (h : Answer parse p k content answer)
    (hparse : ∀ text e, parse text = .error e → e.OfText) :
    Refused answer ↔ ∃ text : String, content = .ok text.toUTF8 ∧ k.toNat < text.utf8ByteSize := by
  constructor
  · intro hanswer
    cases h with
    | unreadable fault =>
      obtain ⟨_, _, heq⟩ := hanswer
      cases heq
    | notUtf8 h =>
      obtain ⟨_, _, heq⟩ := hanswer
      cases heq
    | tooLarge h => exact ⟨_, rfl, h⟩
    | parsed h => exact absurd hanswer (not_refused (hparse _))
  · rintro ⟨text, rfl, hsize⟩
    exact ⟨_, _, (h.unique (.tooLarge hsize)).symm⟩

/-- How a loader depends on its limit. `content` is what reading the file at `p` gives, and `parse`
is what is made of a text. -/
structure Limited (parse : String → Except Error α) (p : Path)
    (content : Except FileFault ByteArray) (load : UInt64 → Except Error α) : Prop where
  /-- The faults come in their order, and a document of just as many bytes as the limit is read. -/
  answers : ∀ k, Answer parse p k content (load k)
  /-- All that stands in the way of a text of the right size is in the text. -/
  ofText : ∀ text e, parse text = .error e → e.OfText
  reportedAs : ∀ k e, load k = .error e →
    e.ReportedAs "resource error: " ∨ e.OfText ∧ e.ReportedAs "JSON error: "
  /-- A document, or an error in its text, is returned under every greater limit, and so is a fault
  of the file. -/
  raise : ∀ k k', k ≤ k' → ¬Refused (load k) → load k' = load k
  refused_iff : ∀ k,
    Refused (load k) ↔ ∃ text : String, content = .ok text.toUTF8 ∧ k.toNat < text.utf8ByteSize

theorem limited_of_answers {load : UInt64 → Except Error α}
    (hanswers : ∀ k, Answer parse p k content (load k))
    (hparse : ∀ text e, parse text = .error e → e.OfText) : Limited parse p content load where
  answers := hanswers
  ofText := hparse
  reportedAs k _ he := (hanswers k).reportedAs hparse he
  raise k k' hk hload := ((hanswers k).raise hk hload).unique (hanswers k')
  refused_iff k := (hanswers k).refused_iff hparse

/-! ## Texts -/

theorem ofText_of_modelOf {text : String} {e : Error} (h : modelOf text = .error e) :
    e.OfText := by
  rw [modelOf] at h
  cases hread : Model.read text with
  | ok model =>
    rw [hread] at h
    cases h
  | error fault =>
    rw [hread] at h
    cases h
    cases fault with
    | json error => exact .json error
    | duplicateField field model => exact .duplicateField field model

theorem ofText_of_schemaOf {url : Url} {text : String} {e : Error}
    (h : schemaOf url text = .error e) : e.OfText := by
  rw [schemaOf] at h
  cases hread : Node.read text with
  | ok root =>
    rw [hread] at h
    cases h
  | error fault =>
    rw [hread] at h
    cases h
    exact .json fault

end Source

/-! ## Locators -/

/-- A locator has a file behind it: its URL is a file URL with a path. -/
structure Locator.LeadsTo (base : Path) (locator : String) (url : Url) (p : Path) : Prop where
  resolve : Locator.resolve base locator = .ok url
  filePath : Locator.filePath url = .ok p

namespace Locator

variable {base p : Path} {locator : String} {url : Url}

theorem scheme_of_filePath (h : filePath url = .ok p) : url.scheme = Url.fileScheme := by
  by_contra hscheme
  rw [filePath, if_pos hscheme] at h
  cases h

/-- The protocol of a locator with a file behind it is `file`, if it has one. -/
theorem LeadsTo.protocol (h : LeadsTo base locator url p) :
    Protocol.ofLocator locator = .bare ∨ Protocol.ofLocator locator = .file := by
  by_contra hp
  obtain ⟨hbare, hfile⟩ := not_or.1 hp
  have hresolve := h.resolve
  rw [resolve_known hbare] at hresolve
  cases hread : Url.read locator with
  | error fault =>
    rw [hread] at hresolve
    cases hresolve
  | ok found =>
    rw [hread] at hresolve
    cases hresolve
    have hscheme := Protocol.scheme_of_read hbare hread
    exact Protocol.tag_ne_fileScheme hfile (hscheme.symm.trans (scheme_of_filePath h.filePath))

end Locator

namespace Source

variable {m : Type → Type} {locator : String} {url : Url} {p : Path}

/-- The file that is read is the one behind the locator. -/
theorem locate_of_leadsTo (s : Source m) (h : Locator.LeadsTo s.base locator url p) :
    s.locate locator = .ok (url, p) := by
  have hremote : (Protocol.ofLocator locator).isRemote = false := by
    rcases h.protocol with hp | hp <;> rw [hp] <;> rfl
  have hscheme := Locator.scheme_of_filePath h.filePath
  rw [locate, h.resolve]
  simp only [Except.mapError, hremote, hscheme, h.filePath, bind, Except.bind]
  rfl

/-- A locator without a file behind it is refused before anything is read. -/
theorem locate_of_not_leadsTo (s : Source m)
    (h : ∀ url p, ¬Locator.LeadsTo s.base locator url p) :
    ∃ e, s.locate locator = .error e ∧ ∀ size limit, e ≠ .tooLarge size limit := by
  unfold locate
  cases hresolve : Locator.resolve s.base locator with
  | error fault => exact ⟨_, rfl, nofun⟩
  | ok url =>
    simp only [Except.mapError, bind, Except.bind]
    by_cases hremote : (Protocol.ofLocator locator).isRemote = true
    · rw [if_pos hremote]
      exact ⟨_, rfl, nofun⟩
    · rw [if_neg hremote]
      by_cases hscheme : url.scheme = Url.fileScheme
      · rw [if_neg (not_not.2 hscheme)]
        cases hpath : Locator.filePath url with
        | error fault => exact ⟨_, rfl, nofun⟩
        | ok p => exact absurd ⟨hresolve, hpath⟩ (h url p)
      · rw [if_pos hscheme]
        exact ⟨_, rfl, nofun⟩

/-! ## Loaders -/

/-- A loader gives the answer of the file that it reads, which is the one at the path or behind the
locator. A locator without a file behind it has the same answer under every limit. -/
theorem limited_loaders (s : Source Id) :
    (∀ p, Limited modelOf p (s.read p) fun k => (s.model k p).run) ∧
    (∀ locator url p, Locator.LeadsTo s.base locator url p →
      Limited (schemaOf url) p (s.read p) fun k => (s.schema k locator).run) ∧
    ∀ locator, (∀ url p, ¬Locator.LeadsTo s.base locator url p) →
      ∃ e : Error, (∀ size limit, e ≠ .tooLarge size limit) ∧
        ∀ k, (s.schema k locator).run = Except.error e := by
  refine ⟨fun p => ?_, fun locator url p h => ?_, fun locator h => ?_⟩
  · exact limited_of_answers (fun k => answer_iff.2 (s.run_model_read k p).symm)
      fun _ _ => ofText_of_modelOf
  · refine limited_of_answers (fun k => answer_iff.2 ?_) fun _ _ => ofText_of_schemaOf
    have hschema := s.run_schema_read k locator
    rw [s.locate_of_leadsTo h] at hschema
    exact hschema.symm
  · obtain ⟨e, he, hsize⟩ := s.locate_of_not_leadsTo h
    refine ⟨e, hsize, fun k => ?_⟩
    have hschema := s.run_schema_read k locator
    rw [he] at hschema
    exact hschema

/-- A text of four bytes and three characters, a model in 29 bytes with a field that comes twice,
and a file that is not UTF-8. -/
def documents : FileSystem where
  entries :=
    [([[0x73]], .file "\"é\"".toUTF8),
      ([[0x6D]], .file "[\"M\",[[\"é\",\"A\"],[\"é\",\"B\"]]]".toUTF8),
      ([[0x78]], .file ⟨#[0x22, 0xFF, 0x22]⟩)]
  workingDirectory := []
  sound := by decide
  working := rfl

/-- The limit counts bytes, and a document of just as many is read. The error in a text stays under
every greater limit, and a file that is not UTF-8 is no matter of the limit, as is a URL with a
host. -/
theorem limited_loaders_documents :
    (Locator.LeadsTo documents.source.base "s" (Url.ofPath (Path.ofString "/s"))
        (Path.ofString "/s") ∧
      (documents.source.schema 3 "s").run = Except.error (.tooLarge 4 3) ∧
      ∀ k, 4 ≤ k → (documents.source.schema k "s").run =
        Except.ok ⟨Url.ofPath (Path.ofString "/s"), .scalar (.string "é")⟩) ∧
    (∀ k, 29 ≤ k → (documents.source.model k (Path.ofString "m")).run =
      Except.error (.duplicateField "é" "M")) ∧
    (∀ k, (documents.source.model k (Path.ofString "x")).run =
      Except.error (.unreadable (Path.ofString "x") .notUtf8)) ∧
    (∀ url p, ¬Locator.LeadsTo documents.source.base "file://h/s" url p) ∧
    ∃ e : Error, ∀ k,
      (documents.source.schema k "file://h/s").run = Except.error e := by
  obtain ⟨hmodels, hschemas, hothers⟩ := documents.source.limited_loaders
  refine ⟨?_, fun k hk => ?_, fun k => ?_, ?_⟩
  · have hleads : Locator.LeadsTo documents.source.base "s"
        (Url.ofPath (Path.ofString "/s")) (Path.ofString "/s") :=
      ⟨by decide +kernel, by decide +kernel⟩
    have hlimited := hschemas _ _ _ hleads
    have hread : Node.read "\"é\"" = .ok (.scalar (.string "é")) := by decide +kernel
    have hthree : (3 : UInt64).toNat < "\"é\"".utf8ByteSize := by decide
    have hfour : (documents.source.schema 4 "s").run =
        Except.ok ⟨Url.ofPath (Path.ofString "/s"), .scalar (.string "é")⟩ := by
      refine (Answer.unique (.parsed (by decide)) (hlimited.answers 4)).trans ?_
      rw [schemaOf, hread]
      rfl
    refine ⟨hleads, Answer.unique (.tooLarge hthree) (hlimited.answers 3), fun k hk => ?_⟩
    refine (hlimited.raise 4 k hk (not_refused fun e he => ?_)).trans hfour
    cases hfour.symm.trans he
  · have hread : Model.read "[\"M\",[[\"é\",\"A\"],[\"é\",\"B\"]]]" =
        .error (.duplicateField "é" "M") := by decide +kernel
    have hsize : "[\"M\",[[\"é\",\"A\"],[\"é\",\"B\"]]]".utf8ByteSize ≤ k.toNat :=
      UInt64.le_iff_toNat_le.1 hk
    refine (Answer.unique (.parsed hsize) ((hmodels (Path.ofString "m")).answers k)).trans ?_
    rw [modelOf, hread]
    rfl
  · have hbytes : ¬(⟨#[0x22, 0xFF, 0x22]⟩ : ByteArray).IsValidUTF8 := by decide +kernel
    exact Answer.unique (.notUtf8 hbytes) ((hmodels (Path.ofString "x")).answers k)
  · have hresolve : Locator.resolve documents.source.base "file://h/s" =
        .ok ⟨"file".toList, some ⟨.name ['h'], [], [], none⟩, .segments [['s']], none, none⟩ := by
      decide +kernel
    have hnone : ∀ url p,
        ¬Locator.LeadsTo documents.source.base "file://h/s" url p := by
      rintro url p ⟨hurl, hpath⟩
      rw [hresolve] at hurl
      cases hurl
      cases hpath
    obtain ⟨e, -, he⟩ := hothers _ hnone
    exact ⟨hnone, e, he⟩

end Source

end SchemaRules
