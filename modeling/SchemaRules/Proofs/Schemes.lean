import Mathlib.Data.List.DropRight
import Mathlib.Data.List.Induction
import SchemaRules.Loader

/-!
# Protocols and schemes

A locator is classified twice: by the text before its first colon, and by the scheme of the URL
that it becomes. Both say the same, in whatever case the text is written, so a locator with a
protocol that names no file is refused before anything is read.

* `Url.scheme_of_readAfterScheme`: a URL has the scheme that stands before it.
* `Url.toLower_cases`: only capital letters change in lower case, and become letters.
* `Url.read_tag`: a URL that begins with letters and a colon is read after them.
* `Protocol.exists_tag`: a known protocol is written as letters before a colon.
* `Locator.resolve_known`: what such a locator becomes, from its protocol and what follows.
* `Source.run_schema_refused`: a protocol that names no file is refused without an effect.
* `Locator.scheme_and_refusal`: both classifications agree, and what follows for loading.
-/

namespace SchemaRules

/-! ## Schemes -/

namespace Url

variable {k : Kind} {scheme text : List Char} {u : Url}

theorem scheme_withRoute (k : Kind) (scheme : List Char) (authority : Option Authority)
    (text : List Char) : (withRoute k scheme authority text).scheme = scheme := by
  unfold withRoute
  dsimp only
  split <;> rfl

theorem scheme_of_readWithAuthority (h : readWithAuthority k scheme text = .ok u) :
    u.scheme = scheme := by
  obtain ⟨_, _, h⟩ := bind_eq_ok_iff.1 h
  cases h
  exact scheme_withRoute ..

theorem scheme_of_readFile (h : readFile scheme text = .ok u) : u.scheme = scheme := by
  unfold readFile at h
  split at h
  · dsimp only at h
    split at h
    · cases h
      exact scheme_withRoute ..
    · obtain ⟨_, _, h⟩ := bind_eq_ok_iff.1 h
      cases h
      exact scheme_withRoute ..
  · cases h
    exact scheme_withRoute ..

/-- A URL has the scheme that stands before it, whatever follows. -/
theorem scheme_of_readAfterScheme (h : readAfterScheme scheme text = .ok u) :
    u.scheme = scheme := by
  unfold readAfterScheme at h
  split at h
  · exact scheme_of_readFile h
  · exact scheme_of_readWithAuthority h
  · split at h
    · exact scheme_of_readWithAuthority h
    · cases h
      exact scheme_withRoute ..
    · cases h
      rfl

/-! ## Letters before a colon -/

theorem isAlpha_iff_toNat {c : Char} : c.isAlpha = true ↔
    65 ≤ c.toNat ∧ c.toNat ≤ 90 ∨ 97 ≤ c.toNat ∧ c.toNat ≤ 122 := by
  change (decide (c.val ≥ 'A'.val ∧ c.val ≤ 'Z'.val)
    || (decide (c.val ≥ 'a'.val) && decide (c.val ≤ 'z'.val))) = true ↔ _
  simp only [Bool.or_eq_true, Bool.and_eq_true, decide_eq_true_eq, ge_iff_le,
    UInt32.le_iff_toNat_le]
  exact Iff.rfl

/-- In lower case a character is itself, or the letter 32 code points above it. -/
theorem toLower_cases (c : Char) : c.toLower = c ∨
    65 ≤ c.toNat ∧ c.toNat ≤ 90 ∧ c.toLower.toNat = c.toNat + 32 := by
  by_cases hc : c.val ≥ 'A'.val ∧ c.val ≤ 'Z'.val
  · have hlow : 65 ≤ c.toNat := UInt32.le_iff_toNat_le.1 hc.1
    have hhigh : c.toNat ≤ 90 := UInt32.le_iff_toNat_le.1 hc.2
    have hval : c.toLower.val = c.val + 32 := congrArg Char.val (dif_pos hc)
    refine .inr ⟨hlow, hhigh, ?_⟩
    calc c.toLower.toNat = (c.val + 32).toNat := congrArg UInt32.toNat hval
      _ = (c.toNat + 32) % 2 ^ 32 := UInt32.toNat_add c.val 32
      _ = c.toNat + 32 := Nat.mod_eq_of_lt (by omega)
  · exact .inl (dif_neg hc)

/-- Only a letter changes in lower case. -/
theorem eq_of_toLower {c d : Char} (hd : d.isAlpha = false) (h : c.toLower = d) : c = d := by
  rcases toLower_cases c with hsame | ⟨hlow, hhigh, hlower⟩
  · exact hsame.symm.trans h
  · rw [h] at hlower
    have hletter : d.isAlpha = true := isAlpha_iff_toNat.2 (by omega)
    rw [hletter] at hd
    cases hd

theorem isAlpha_of_toLower {c : Char} (h : c.toLower.isAlpha = true) : c.isAlpha = true := by
  rcases toLower_cases c with hsame | ⟨hlow, hhigh, -⟩
  · rwa [hsame] at h
  · exact isAlpha_iff_toNat.2 (.inl ⟨hlow, hhigh⟩)

/-- A letter ends no scheme, and is neither a margin nor left out. -/
theorem not_margin_of_isAlpha {c : Char} (h : c.isAlpha = true) :
    isMargin c = false ∧ isIgnored c = false ∧ c ≠ ':' := by
  have hlarge : 65 ≤ c.toNat := by
    have := isAlpha_iff_toNat.1 h
    omega
  have hne : ∀ d : Char, d.toNat < 65 → c ≠ d := by
    rintro d hd rfl
    omega
  refine ⟨?_, ?_, hne ':' (by decide)⟩
  · have hspace : ¬c ≤ ' ' := fun hle => by
      have : c.toNat ≤ 32 := UInt32.le_iff_toNat_le.1 hle
      omega
    simpa [isMargin] using hspace
  · simp [isIgnored, hne '\t' (by decide), hne '\n' (by decide), hne '\r' (by decide)]

section

variable {tag rest : List Char}

theorem bne_colon_of_mem (h : ':' ∉ tag) {c : Char} (hc : c ∈ tag) : (c != ':') = true := by
  have hne : c ≠ ':' := fun e => h (e ▸ hc)
  simpa using hne

theorem takeWhile_tag (h : ':' ∉ tag) (rest : List Char) :
    (tag ++ ':' :: rest).takeWhile (· != ':') = tag := by
  rw [List.takeWhile_append_of_pos fun _ => bne_colon_of_mem h,
    List.takeWhile_cons_of_neg (by simp), List.append_nil]

theorem dropWhile_tag (h : ':' ∉ tag) (rest : List Char) :
    (tag ++ ':' :: rest).dropWhile (· != ':') = ':' :: rest := by
  rw [List.dropWhile_append_of_pos fun _ => bne_colon_of_mem h,
    List.dropWhile_cons_of_neg (by simp)]

/-- Letters before a colon are a scheme. -/
theorem splitScheme?_tag (hne : tag ≠ []) (h : ∀ c ∈ tag, c.isAlpha = true) (rest : List Char) :
    splitScheme? (tag ++ ':' :: rest) = some (tag.map Char.toLower, rest) := by
  have hcolon : ':' ∉ tag := fun hmem => (not_margin_of_isAlpha (h _ hmem)).2.2 rfl
  have hvisible : visible tag = tag :=
    List.filter_eq_self.2 fun c hc => by simp [(not_margin_of_isAlpha (h c hc)).2.1]
  obtain ⟨c, more, rfl⟩ := List.exists_cons_of_ne_nil hne
  have hmore : more.all isSchemeChar = true := List.all_eq_true.2 fun d hd => by
    simp [isSchemeChar, Char.isAlphanum, h d (List.mem_cons_of_mem c hd)]
  rw [splitScheme?, takeWhile_tag hcolon, dropWhile_tag hcolon, hvisible]
  simp [h c List.mem_cons_self, hmore]

/-- Only what follows the colon has a margin. -/
theorem trimMargins_tag (hne : tag ≠ []) (h : ∀ c ∈ tag, c.isAlpha = true) (rest : List Char) :
    trimMargins (tag ++ ':' :: rest) = tag ++ ':' :: rest.rdropWhile isMargin := by
  have hleft : (tag ++ ':' :: rest).dropWhile isMargin = tag ++ ':' :: rest := by
    obtain ⟨c, more, rfl⟩ := List.exists_cons_of_ne_nil hne
    have hc := (not_margin_of_isAlpha (h c List.mem_cons_self)).1
    exact List.dropWhile_cons_of_neg (by simp [hc])
  have hright : (tag ++ ':' :: rest).rdropWhile isMargin =
      tag ++ ':' :: rest.rdropWhile isMargin := by
    clear hleft
    induction rest using List.reverseRecOn with
    | nil =>
      exact List.rdropWhile_concat_neg _ _ _ (by decide)
    | append_singleton rest c ih =>
      rw [← List.cons_append, ← List.append_assoc, List.rdropWhile_concat,
        List.rdropWhile_concat, ih]
      split <;> simp
  rw [trimMargins, hleft]
  exact hright

/-- A URL that begins with letters and a colon is read after them, in lower case. -/
theorem read_tag {text : String} (htext : text.toList = tag ++ ':' :: rest) (hne : tag ≠ [])
    (h : ∀ c ∈ tag, c.isAlpha = true) :
    read text = readAfterScheme (tag.map Char.toLower) (rest.rdropWhile isMargin) := by
  rw [read, htext, trimMargins_tag hne h, splitScheme?_tag hne h]

end

end Url

/-! ## Protocols -/

namespace Protocol

variable {p : Protocol} {tag rest : List Char} {locator : String}

/-- A locator with a colon has the protocol of what stands before the first one. -/
theorem ofLocator_eq (h : locator.toList = tag ++ ':' :: rest) (hcolon : ':' ∉ tag) :
    ofLocator locator = ofTag tag := by
  have hmem : (tag ++ ':' :: rest).contains ':' = true := by simp
  rw [ofLocator, h]
  simp only [hmem, if_true, Url.takeWhile_tag hcolon]

/-- A known protocol stands before a colon. -/
theorem exists_tag (h : ofLocator locator ≠ .bare) :
    ∃ tag rest, locator.toList = tag ++ ':' :: rest ∧ ':' ∉ tag := by
  have hmem : ':' ∈ locator.toList := by
    by_contra hno
    have hno : locator.toList.contains ':' = false := by simpa using hno
    exact h (by simp only [ofLocator, hno]; rfl)
  obtain ⟨tag, rest, htext, hcolon⟩ := List.eq_append_cons_of_mem hmem
  exact ⟨tag, rest, htext, hcolon⟩

/-- The tag of a known protocol is written in any case. -/
theorem map_toLower_of_ofTag (h : ofTag tag = p) (hp : p ≠ .bare) :
    tag.map Char.toLower = p.tag.toList := by
  unfold ofTag at h
  cases hfind : all.find? fun q => fold q.tag.toList == fold tag with
  | none => exact absurd (by rw [hfind] at h; exact h.symm) hp
  | some q =>
    rw [hfind, Option.getD_some] at h
    subst h
    have hfold : fold q.tag.toList = fold tag := by simpa using List.find?_some hfind
    have hlower : fold q.tag.toList = q.tag.toList := by cases q <;> decide
    exact hfold.symm.trans hlower

theorem ofTag_congr {other : List Char} (h : tag.map Char.toLower = other.map Char.toLower) :
    ofTag tag = ofTag other := by
  unfold ofTag fold
  rw [h]

theorem letters_tag (hp : p ≠ .bare) :
    p.tag.toList ≠ [] ∧ ∀ c ∈ p.tag.toList, c.isAlpha = true := by
  cases p with
  | bare => exact absurd rfl hp
  | _ => simp [tag]

theorem isRemote_iff : p.isRemote = true ↔ p = .http ∨ p = .https := by
  cases p <;> decide

theorem tag_ne_fileScheme (hp : p ≠ .file) : p.tag.toList ≠ Url.fileScheme := by
  cases p with
  | file => exact absurd rfl hp
  | _ => decide

/-- A known protocol is written with letters. -/
theorem letters_of_ofTag (h : ofTag tag = p) (hp : p ≠ .bare) :
    tag ≠ [] ∧ ∀ c ∈ tag, c.isAlpha = true := by
  obtain ⟨hne, hall⟩ := letters_tag hp
  rw [← map_toLower_of_ofTag h hp] at hne hall
  exact ⟨fun hnil => hne (by rw [hnil]; rfl), fun c hc =>
    Url.isAlpha_of_toLower (hall _ (List.mem_map_of_mem hc))⟩

/-- A URL with a known protocol is read after it, whatever the case of its tag. -/
theorem read_eq (htext : locator.toList = tag ++ ':' :: rest) (h : ofTag tag = p)
    (hp : p ≠ .bare) :
    Url.read locator = Url.readAfterScheme p.tag.toList (rest.rdropWhile Url.isMargin) := by
  obtain ⟨hne, hall⟩ := letters_of_ofTag h hp
  rw [Url.read_tag htext hne hall, map_toLower_of_ofTag h hp]

/-- The URL of a locator with a known protocol has the protocol's tag for its scheme. -/
theorem scheme_of_read {u : Url} (hp : ofLocator locator ≠ .bare)
    (h : Url.read locator = .ok u) : u.scheme = (ofLocator locator).tag.toList := by
  obtain ⟨tag, rest, htext, hcolon⟩ := exists_tag hp
  rw [ofLocator_eq htext hcolon] at hp ⊢
  rw [read_eq htext rfl hp] at h
  exact Url.scheme_of_readAfterScheme h

end Protocol

/-! ## Locators -/

namespace Locator

variable {locator : String}

theorem resolve_known (hp : Protocol.ofLocator locator ≠ .bare) (base : Path) :
    resolve base locator = (Url.read locator).mapError .url := by
  unfold resolve
  split
  · next h => exact absurd h hp
  · rfl

/-- Why a locator with a known protocol that names no file is not loaded. -/
def refusal (locator : String) : Error :=
  match Url.read locator with
  | .error fault => .invalidLocator locator (.url fault)
  | .ok url =>
    if (Protocol.ofLocator locator).isRemote then .remote url else .unsupported url

theorem refusal_of_error {fault : Url.Fault} (h : Url.read locator = .error fault) :
    refusal locator = .invalidLocator locator (.url fault) := by
  rw [refusal, h]

theorem refusal_of_remote {url : Url} (h : Url.read locator = .ok url)
    (hremote : Protocol.ofLocator locator = .http ∨ Protocol.ofLocator locator = .https) :
    refusal locator = .remote url := by
  rw [refusal, h]
  exact if_pos (Protocol.isRemote_iff.2 hremote)

theorem refusal_of_local {url : Url} (h : Url.read locator = .ok url)
    (hlocal : ¬(Protocol.ofLocator locator = .http ∨ Protocol.ofLocator locator = .https)) :
    refusal locator = .unsupported url := by
  rw [refusal, h]
  exact if_neg (mt Protocol.isRemote_iff.1 hlocal)

/-- A known tag in another case makes the same protocol and the same URL. -/
theorem ofLocator_resolve_case {tag other rest : List Char}
    (htext : locator.toList = tag ++ ':' :: rest) (hcolon : ':' ∉ tag)
    (hcase : other.map Char.toLower = tag.map Char.toLower) :
    Protocol.ofLocator (String.ofList (other ++ ':' :: rest)) = Protocol.ofLocator locator ∧
      (Protocol.ofLocator locator ≠ .bare → ∀ base,
        resolve base (String.ofList (other ++ ':' :: rest)) = resolve base locator) := by
  have hother : ':' ∉ other := by
    intro hmem
    have hlower : Char.toLower ':' ∈ other.map Char.toLower := List.mem_map_of_mem hmem
    rw [hcase] at hlower
    obtain ⟨c, hc, heq⟩ := List.mem_map.1 hlower
    obtain rfl : c = ':' := Url.eq_of_toLower (by decide) heq
    exact hcolon hc
  have htext' : (String.ofList (other ++ ':' :: rest)).toList = other ++ ':' :: rest :=
    String.toList_ofList
  have hsame : Protocol.ofLocator (String.ofList (other ++ ':' :: rest)) =
      Protocol.ofLocator locator := by
    rw [Protocol.ofLocator_eq htext' hother, Protocol.ofLocator_eq htext hcolon,
      Protocol.ofTag_congr hcase]
  refine ⟨hsame, fun hp base => ?_⟩
  have hother' := Protocol.ofLocator_eq htext' hother
  have hknown := Protocol.ofLocator_eq htext hcolon
  rw [resolve_known (hsame ▸ hp), resolve_known hp,
    Protocol.read_eq htext' (hother'.symm.trans hsame) hp, Protocol.read_eq htext hknown.symm hp]

end Locator

/-! ## Loading -/

namespace Error

theorem message_remote (url : Url) :
    (remote url).message = "resource error: Remote resources are not fetched: " ++ url.text := by
  unfold message
  rfl

theorem message_unsupported {url : Url} {tag : String} (h : url.scheme = tag.toList) :
    (unsupported url).message =
      "resource error: Loading '" ++ tag ++ "' resources is not supported: " ++ url.text := by
  unfold message
  dsimp only
  rw [h, String.ofList_toList]

end Error

namespace Source

variable {m : Type → Type} {locator : String}

theorem locate_refused (s : Source m)
    (hp : Protocol.ofLocator locator ≠ .bare ∧ Protocol.ofLocator locator ≠ .file) :
    s.locate locator = .error (Locator.refusal locator) := by
  unfold locate Locator.refusal
  rw [Locator.resolve_known hp.1]
  cases hread : Url.read locator with
  | error fault => rfl
  | ok url =>
    have hscheme := Protocol.scheme_of_read hp.1 hread
    have hfile : url.scheme ≠ Url.fileScheme := by
      rw [hscheme]
      exact Protocol.tag_ne_fileScheme hp.2
    by_cases hremote : (Protocol.ofLocator locator).isRemote = true
    · simp only [Except.mapError, hremote, if_true]
      rfl
    · simp only [Except.mapError, hremote]
      simp [bind, Except.bind, throw, throwThe, MonadExceptOf.throw, hfile]

/-- A protocol that names no file is refused without an effect: nothing is read. -/
theorem run_schema_refused [Monad m] [LawfulMonad m] (s : Source m) (limit : UInt64)
    (hp : Protocol.ofLocator locator ≠ .bare ∧ Protocol.ofLocator locator ≠ .file) :
    (s.schema limit locator).run = pure (.error (Locator.refusal locator)) := by
  unfold schema
  rw [s.locate_refused hp]
  have hlift : (liftM (.error (Locator.refusal locator) : Except Error (Url × Path)) :
      ExceptT Error m (Url × Path)) = throw (Locator.refusal locator) := rfl
  rw [hlift, ExceptT.bind_throw, ExceptT.run_throw]

end Source

namespace Locator

/-- Protocol and scheme agree on every locator. A path becomes a file URL. The URL of a known
protocol has its tag for the scheme, and the case of the tag changes neither the protocol nor the
URL. So a protocol other than `file` is refused in the same way whatever the files and the limit
are, and in any monad without an effect: no file is read for it. -/
theorem scheme_and_refusal {locator : String} {p : Protocol}
    (hof : Protocol.ofLocator locator = p) :
    (p = .bare → ∀ base, ∃ url, resolve base locator = .ok url ∧ url.scheme = "file".toList) ∧
    (p ≠ .bare → ∀ base url, resolve base locator = .ok url → url.scheme = p.tag.toList) ∧
    (∀ tag other rest, locator.toList = tag ++ ':' :: rest → ':' ∉ tag →
      other.map Char.toLower = tag.map Char.toLower →
        Protocol.ofLocator (String.ofList (other ++ ':' :: rest)) = p ∧
          (p ≠ .bare → ∀ base,
            resolve base (String.ofList (other ++ ':' :: rest)) = resolve base locator)) ∧
    (p ≠ .bare ∧ p ≠ .file → ∃ e : Error,
      (∀ (m : Type → Type) [Monad m] [LawfulMonad m] (s : Source m) (limit : UInt64),
        (s.schema limit locator).run = pure (.error e)) ∧
      (∀ fault, Url.read locator = .error fault → e = .invalidLocator locator (.url fault)) ∧
      (∀ url, Url.read locator = .ok url → p = .http ∨ p = .https →
        e = .remote url ∧
          e.message = "resource error: Remote resources are not fetched: " ++ url.text) ∧
      ∀ url, Url.read locator = .ok url → ¬(p = .http ∨ p = .https) →
        e = .unsupported url ∧
          e.message = "resource error: Loading '" ++ p.tag ++ "' resources is not supported: "
            ++ url.text) := by
  subst hof
  refine ⟨fun hp base => ?_, fun hp base url hurl => ?_, fun tag other rest htext hcolon hcase => ?_,
    fun hp => ?_⟩
  · exact ⟨_, resolve_bare hp base, rfl⟩
  · rw [resolve_known hp] at hurl
    cases hread : Url.read locator with
    | error fault => rw [hread] at hurl; cases hurl
    | ok u =>
      rw [hread] at hurl
      cases hurl
      exact Protocol.scheme_of_read hp hread
  · exact ofLocator_resolve_case htext hcolon hcase
  · refine ⟨refusal locator, fun m _ _ s limit => s.run_schema_refused limit hp,
      fun fault hread => refusal_of_error hread, fun url hread hremote => ?_,
      fun url hread hlocal => ?_⟩
    · rw [refusal_of_remote hread hremote]
      exact ⟨rfl, Error.message_remote url⟩
    · rw [refusal_of_local hread hlocal]
      exact ⟨rfl, Error.message_unsupported (Protocol.scheme_of_read hp.1 hread)⟩

/-- A tag in mixed case, before a route with a step back and a blank. -/
theorem scheme_and_refusal_classpath :
    let locator := "ClassPath:/x/../a b"
    Protocol.ofLocator locator = .classpath ∧
      (∀ base url, resolve base locator = .ok url → url.scheme = "classpath".toList) ∧
      (locator.toList = "ClassPath".toList ++ ':' :: "/x/../a b".toList ∧
        ':' ∉ "ClassPath".toList ∧
        "classPATH".toList.map Char.toLower = "ClassPath".toList.map Char.toLower ∧
        ∀ base, resolve base "classPATH:/x/../a b" = resolve base locator) ∧
      ∃ e : Error,
        (∀ (m : Type → Type) [Monad m] [LawfulMonad m] (s : Source m) (limit : UInt64),
          (s.schema limit locator).run = pure (.error e)) ∧
        e.message = "resource error: Loading 'classpath' resources is not supported: "
          ++ "classpath:/a%20b" := by
  have hp : Protocol.ofLocator "ClassPath:/x/../a b" = .classpath := by decide
  have htext : "ClassPath:/x/../a b".toList = "ClassPath".toList ++ ':' :: "/x/../a b".toList := by
    decide
  have hcase : "classPATH".toList.map Char.toLower = "ClassPath".toList.map Char.toLower := by
    decide
  have hread : Url.read "ClassPath:/x/../a b" =
      .ok ⟨"classpath".toList, none, .segments ["a%20b".toList], none, none⟩ := by decide +kernel
  obtain ⟨-, hscheme, hcopy, hrefused⟩ := scheme_and_refusal hp
  obtain ⟨e, hload, -, -, herror⟩ := hrefused ⟨by decide, by decide⟩
  refine ⟨hp, hscheme (by decide), ⟨htext, by decide, hcase, ?_⟩, e, hload, ?_⟩
  · exact (hcopy _ "classPATH".toList _ htext (by decide) hcase).2 (by decide)
  · exact (herror _ hread (by decide)).2.trans (by decide +kernel)

end Locator

end SchemaRules
