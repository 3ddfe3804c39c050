import SchemaRules.Proofs.FileUrl
import SchemaRules.Proofs.Schemes

/-!
# Reading the text of a file URL

The URL of a path is made segment by segment, and any URL can be read from a text. Both agree: the
text of the URL of a path is read as that URL, if no component of the path steps back. So a locator
that is a path and the text of its URL lead to the same document.

* `SegmentChar`: a character that stands for itself in a segment; names are written with them.
* `decode_of_isHere`, `decode_of_isParent`: a segment that is a dot segment is the name of one.
* `readSegments_of_kept`: segments that are not dot segments are read as they are.
* `read_text_ofPath`: the text of the URL of a path.
* `Locator.resolve_text`: a locator and the text of its URL.
-/

namespace SchemaRules

/-! ## Characters of a segment -/

namespace Percent

/-- ASCII characters that need no escape are written as they are. -/
theorem encodeText_eq_self {set : UInt8 → Bool} {cs : List Char}
    (h : ∀ c ∈ cs, c.toNat < 0x80 ∧ set (UInt8.ofNat c.toNat) = false) :
    encodeText set cs = cs := by
  induction cs with
  | nil => rfl
  | cons c cs ih =>
    obtain ⟨hascii, hset⟩ := h c List.mem_cons_self
    have hbyte : (UInt8.ofNat c.toNat).toNat = c.toNat := by
      rw [UInt8.toNat_ofNat']
      omega
    have hsmall : UInt8.ofNat c.toNat < 0x80 := UInt8.lt_iff_toNat_lt.2 (by rw [hbyte]; exact hascii)
    have hplain : isEscaped set (UInt8.ofNat c.toNat) = false := by
      simp only [isEscaped, hset, Bool.or_false, decide_eq_false_iff_not]
      exact UInt8.not_le.2 hsmall
    have hutf8 : String.utf8EncodeChar c = [UInt8.ofNat c.toNat] := by
      have := utf8EncodeChar_ofNat hsmall
      rwa [hbyte, Char.ofNat_toNat] at this
    have hrest := ih fun d hd => h d (List.mem_cons_of_mem c hd)
    rw [encodeText, encode, Utf8.encode, List.flatMap_cons, hutf8, List.singleton_append,
      List.flatMap_cons, hplain, hbyte, Char.ofNat_toNat]
    exact congrArg (c :: ·) hrest

end Percent

namespace Url

/-- A character that stands for itself in a segment of a file URL. -/
def SegmentChar (c : Char) : Prop :=
  c.toNat < 0x80 ∧ Reserved.path (UInt8.ofNat c.toNat) = false ∧ c ≠ '/' ∧ c ≠ '\\'

instance (c : Char) : Decidable (SegmentChar c) :=
  inferInstanceAs (Decidable (_ ∧ _ ∧ _ ∧ _))

/-- The name of a file is written with characters that stand for themselves. -/
theorem segmentChar_of_mem {name : List UInt8} {c : Char}
    (h : c ∈ Percent.encode Reserved.fileName name) : SegmentChar c := by
  have hdigit : ∀ n ∈ List.range 16, SegmentChar (Percent.hexDigit n) := by decide +kernel
  have hplain : ∀ n ∈ List.range 0x80, Reserved.fileName (UInt8.ofNat n) = false →
      SegmentChar (Char.ofNat n) := by decide +kernel
  obtain ⟨b, -, hb⟩ := List.mem_flatMap.1 h
  have hlt : b.toNat < 256 := b.toNat_lt
  split at hb
  · simp only [Percent.escape, List.mem_cons, List.not_mem_nil, or_false] at hb
    rcases hb with rfl | rfl | rfl
    · decide
    · exact hdigit _ (List.mem_range.2 (by omega))
    · exact hdigit _ (List.mem_range.2 (by omega))
  · next hescaped =>
    simp only [Percent.isEscaped, Bool.or_eq_true, decide_eq_true_eq, not_or,
      Bool.not_eq_true] at hescaped
    obtain ⟨hsmall, hset⟩ := hescaped
    have hascii : b.toNat < 0x80 := UInt8.lt_iff_toNat_lt.1 (UInt8.not_le.1 hsmall)
    obtain rfl := List.mem_singleton.1 hb
    exact hplain _ (List.mem_range.2 hascii) (by rwa [UInt8.ofNat_toNat])

namespace SegmentChar

variable {c : Char}

/-- What a character of a segment is not: it is not left out, it is no margin, and it ends neither
an authority nor a route nor a segment. -/
theorem plain (h : SegmentChar c) :
    isIgnored c = false ∧ isMargin c = false ∧ endsRoute c = false ∧
      Kind.file.isSlash c = false := by
  have all : ∀ n ∈ List.range 0x80, SegmentChar (Char.ofNat n) →
      isIgnored (Char.ofNat n) = false ∧ isMargin (Char.ofNat n) = false ∧
        endsRoute (Char.ofNat n) = false ∧ Kind.file.isSlash (Char.ofNat n) = false := by
    decide +kernel
  have := all c.toNat (List.mem_range.2 h.1)
  rw [Char.ofNat_toNat] at this
  exact this h

end SegmentChar

/-! ## Dot segments -/

/-- A dot, as it is or as an escape. -/
def IsDot (part : List Char) : Prop :=
  part.map Char.toLower = ['.'] ∨ part.map Char.toLower = ['%', '2', 'e']

theorem eq_or_eq_of_toLower {c : Char} (h : c.toLower = 'e') : c = 'e' ∨ c = 'E' := by
  rcases toLower_cases c with hsame | ⟨-, -, hlower⟩
  · exact .inl (hsame.symm.trans h)
  · right
    have hnat : c.toNat + 32 = 101 := by
      rw [h] at hlower
      exact hlower.symm
    rw [← Char.ofNat_toNat c, show c.toNat = 69 by omega]

theorem IsDot.decode {part : List Char} (h : IsDot part) (rest : List Char) :
    Percent.decode (part ++ rest) = 0x2E :: Percent.decode rest := by
  rcases h with h | h
  · obtain ⟨c, rfl, hc⟩ := List.map_eq_singleton_iff.1 h
    rw [eq_of_toLower (by decide) hc, List.singleton_append, Percent.decode_cons_of_ne (by decide)]
    rfl
  · obtain ⟨mark, _, rfl, hmark, h⟩ := List.map_eq_cons_iff.1 h
    obtain ⟨high, _, rfl, hhigh, h⟩ := List.map_eq_cons_iff.1 h
    obtain ⟨low, rfl, hlow⟩ := List.map_eq_singleton_iff.1 h
    rw [eq_of_toLower (by decide) hmark, eq_of_toLower (by decide) hhigh]
    rcases eq_or_eq_of_toLower hlow with rfl | rfl <;> rfl

theorem decode_of_isHere {segment : List Char} (h : isHere segment = true) :
    Percent.decode segment = Path.here := by
  have hdot : IsDot segment := by simpa [isHere, IsDot, ← String.toList_inj] using h
  have := hdot.decode []
  rwa [List.append_nil] at this

/-- Dots one after the other are found again in a segment that writes them in any case. -/
theorem exists_isDot_append {segment a b : List Char} (h : segment.map Char.toLower = a ++ b)
    (ha : a = ['.'] ∨ a = ['%', '2', 'e']) (hb : b = ['.'] ∨ b = ['%', '2', 'e']) :
    ∃ first second, segment = first ++ second ∧ IsDot first ∧ IsDot second := by
  obtain ⟨first, second, rfl, rfl, rfl⟩ := List.map_eq_append_iff.1 h
  exact ⟨first, second, rfl, ha, hb⟩

theorem decode_of_isParent {segment : List Char} (h : isParent segment = true) :
    Percent.decode segment = Path.parent := by
  have hdots : ∃ first second, segment = first ++ second ∧ IsDot first ∧ IsDot second := by
    simp only [isParent, List.contains_iff_mem, List.mem_cons, List.not_mem_nil, or_false,
      ← String.toList_inj, String.toList_ofList] at h
    rcases h with h | h | h | h
    · exact exists_isDot_append (a := ['.']) h (.inl rfl) (.inl rfl)
    · exact exists_isDot_append (a := ['%', '2', 'e']) h (.inr rfl) (.inl rfl)
    · exact exists_isDot_append (a := ['.']) h (.inl rfl) (.inr rfl)
    · exact exists_isDot_append (a := ['%', '2', 'e']) h (.inr rfl) (.inr rfl)
  obtain ⟨first, second, rfl, hfirst, hsecond⟩ := hdots
  rw [hfirst.decode, ← List.append_nil second, hsecond.decode]
  rfl

/-! ## Segments -/

/-- A segment that is read as it is written: it is no dot segment, and every character of it stands
for itself. -/
structure Kept (segment : List Char) : Prop where
  chars : ∀ c ∈ segment, SegmentChar c
  not_isParent : isParent segment = false
  not_isHere : isHere segment = false

theorem Kept.nil : Kept [] :=
  ⟨fun _ h => absurd h List.not_mem_nil, by decide, by decide⟩

/-- A name that does not step is written as a segment that is kept. -/
theorem kept_encode {name : List UInt8} (hparent : name ≠ Path.parent) (hhere : name ≠ Path.here) :
    Kept (Percent.encode Reserved.fileName name) := by
  have hdecode := decode_encode_fileName name
  refine ⟨fun c hc => segmentChar_of_mem hc, ?_, ?_⟩
  · rw [← Bool.not_eq_true]
    exact fun h => hparent (hdecode.symm.trans (decode_of_isParent h))
  · rw [← Bool.not_eq_true]
    exact fun h => hhere (hdecode.symm.trans (decode_of_isHere h))

namespace Kept

variable {segment : List Char}

theorem visible_eq (h : Kept segment) : visible segment = segment :=
  List.filter_eq_self.2 fun c hc => by simp [(h.chars c hc).plain.1]

theorem encodeText_eq (h : Kept segment) : Percent.encodeText Reserved.path segment = segment :=
  Percent.encodeText_eq_self fun c hc => ⟨(h.chars c hc).1, (h.chars c hc).2.1⟩

/-- After the first segment of a file URL, a kept one is added. -/
theorem step_eq (h : Kept segment) {names : List (List Char)} (hne : names ≠ []) (drops : Bool) :
    Progress.step .file ⟨names, drops⟩ segment = ⟨names ++ [segment], drops⟩ := by
  unfold Progress.step
  simp only [h.visible_eq, h.not_isParent, h.not_isHere, hne, and_false, if_false,
    Bool.false_eq_true, Progress.add, h.encodeText_eq]

end Kept

theorem foldl_step_of_kept {segments : List (List Char)} (h : ∀ s ∈ segments, Kept s)
    {names : List (List Char)} (hne : names ≠ []) (drops : Bool) :
    segments.foldl (Progress.step .file) ⟨names, drops⟩ = ⟨names ++ segments, drops⟩ := by
  induction segments generalizing names with
  | nil => rw [List.foldl_nil, List.append_nil]
  | cons s rest ih =>
    rw [List.foldl_cons, (h s List.mem_cons_self).step_eq hne,
      ih (fun t ht => h t (List.mem_cons_of_mem s ht)) (by simp), List.append_assoc]
    rfl

/-- Segments after slashes are split again, with nothing before the first slash. -/
theorem splitOnP_flatMap {segments : List (List Char)}
    (h : ∀ s ∈ segments, ∀ c ∈ s, Kind.file.isSlash c = false) :
    (segments.flatMap ('/' :: ·)).splitOnP Kind.file.isSlash = [] :: segments := by
  have hslash : Kind.file.isSlash '/' = true := by decide
  -- The last of the segments has no slash after it, so the induction leaves out the first slash.
  have hjoin : ∀ (s : List Char) (rest : List (List Char)), (∀ t ∈ s :: rest, ∀ c ∈ t,
      Kind.file.isSlash c = false) →
        (s ++ rest.flatMap ('/' :: ·)).splitOnP Kind.file.isSlash = s :: rest := by
    intro s rest
    induction rest generalizing s with
    | nil =>
      intro h
      rw [List.flatMap_nil, List.append_nil]
      exact List.splitOnP_eq_singleton (h s List.mem_cons_self)
    | cons t rest ih =>
      intro h
      rw [List.flatMap_cons, List.cons_append,
        List.splitOnP_append_cons_of_forall_mem (h s List.mem_cons_self) '/' hslash,
        ih t fun u hu => h u (List.mem_cons_of_mem s hu)]
  have := hjoin [] segments fun t ht => by
    rcases List.mem_cons.1 ht with rfl | ht
    · simp
    · exact h t ht
  rwa [List.nil_append] at this

/-- The segments of a file URL as it is written from a path: names that are not empty, or one empty
segment for the root. -/
def Rooted (segments : List (List Char)) : Prop :=
  segments = [[]] ∨ segments ≠ [] ∧ ∀ s ∈ segments, s ≠ []

/-- The empty segment that the slash of the route begins is dropped at the end. -/
theorem finish_of_rooted {segments : List (List Char)} (hroot : Rooted segments)
    (hkept : ∀ s ∈ segments, Kept s) (drops : Bool) :
    Progress.finish .file ⟨[] :: segments, drops⟩ (([] :: segments).getLast?.getD []) =
      ⟨segments, drops⟩ := by
  have hlast : Kept (([] :: segments).getLast?.getD []) := by
    rw [List.getLast?_eq_some_getLast (List.cons_ne_nil _ _), Option.getD_some]
    rcases List.mem_cons.1 (List.getLast_mem (List.cons_ne_nil [] segments)) with hnil | hmem
    · rw [hnil]
      exact .nil
    · exact hkept _ hmem
  unfold Progress.finish
  simp only [hlast.visible_eq, hlast.not_isParent, hlast.not_isHere, Bool.or_self,
    Bool.false_eq_true, if_false, if_true]
  rcases hroot with rfl | ⟨hne, hnames⟩
  · rfl
  · obtain ⟨s, rest, rfl⟩ := List.exists_cons_of_ne_nil hne
    have hs : s.isEmpty = false := by simpa using hnames s List.mem_cons_self
    simp [hs]

/-- Segments that are kept are read as they are, after the slash that begins the route. -/
theorem readSegments_of_kept {segments : List (List Char)} (hroot : Rooted segments)
    (hkept : ∀ s ∈ segments, Kept s) :
    readSegments .file (segments.flatMap ('/' :: ·)) = ⟨segments, false⟩ := by
  have hsplit := splitOnP_flatMap fun s hs c hc => ((hkept s hs).chars c hc).plain.2.2.2
  have hfirst : Progress.step .file {} [] = ⟨[[]], false⟩ := rfl
  unfold readSegments
  simp only [hsplit, List.foldl_cons, hfirst]
  rw [foldl_step_of_kept hkept (List.cons_ne_nil _ _)]
  exact finish_of_rooted hroot hkept false

/-! ## Texts -/

section

variable {segments : List (List Char)}

theorem print_segments_chars (hkept : ∀ s ∈ segments, Kept s) {c : Char}
    (hc : c ∈ segments.flatMap ('/' :: ·)) :
    isIgnored c = false ∧ isMargin c = false ∧ endsRoute c = false := by
  obtain ⟨s, hs, hc⟩ := List.mem_flatMap.1 hc
  rcases List.mem_cons.1 hc with rfl | hc
  · decide
  · obtain ⟨hignored, hmargin, hroute, -⟩ := ((hkept s hs).chars c hc).plain
    exact ⟨hignored, hmargin, hroute⟩

/-- A route without query and fragment is read to its end. -/
theorem withRoute_of_kept (hroot : Rooted segments) (hkept : ∀ s ∈ segments, Kept s)
    (authority : Option Authority) :
    withRoute .file fileScheme authority ('/' :: segments.flatMap ('/' :: ·)) =
      ⟨fileScheme, authority, .segments segments, none, none⟩ := by
  have hchars : ∀ c ∈ '/' :: segments.flatMap ('/' :: ·), (!endsRoute c) = true := by
    intro c hc
    rcases List.mem_cons.1 hc with rfl | hc
    · decide
    · simp [(print_segments_chars hkept hc).2.2]
  have hbody : ('/' :: segments.flatMap ('/' :: ·)).takeWhile (fun c => !endsRoute c) =
      '/' :: segments.flatMap ('/' :: ·) := List.takeWhile_eq_self_iff.2 hchars
  have hend : ('/' :: segments.flatMap ('/' :: ·)).dropWhile (fun c => !endsRoute c) = [] :=
    List.dropWhile_eq_nil_iff.2 hchars
  have hslash : dropSlash .file ('/' :: segments.flatMap ('/' :: ·)) =
      segments.flatMap ('/' :: ·) := by
    simp [dropSlash, afterSlash?, isIgnored, Kind.isSlash]
  unfold withRoute
  simp only [hbody, hend, hslash, readSegments_of_kept hroot hkept]
  rfl

/-- The text of a file URL of this machine is read after its scheme. -/
theorem readFile_of_kept (hroot : Rooted segments) (hkept : ∀ s ∈ segments, Kept s) :
    readFile fileScheme ('/' :: '/' :: segments.flatMap ('/' :: ·)) =
      .ok ⟨fileScheme, some ⟨.empty, [], [], none⟩, .segments segments, none, none⟩ := by
  have hslashes : (afterSlash? .file ('/' :: '/' :: segments.flatMap ('/' :: ·))).bind
      (afterSlash? .file) = some (segments.flatMap ('/' :: ·)) := by
    simp [afterSlash?, isIgnored, Kind.isSlash]
  obtain ⟨text, htext⟩ : ∃ text, segments.flatMap ('/' :: ·) = '/' :: text := by
    have hne : segments ≠ [] := by
      rcases hroot with rfl | ⟨hne, -⟩
      · exact List.cons_ne_nil _ _
      · exact hne
    obtain ⟨s, rest, rfl⟩ := List.exists_cons_of_ne_nil hne
    exact ⟨_, rfl⟩
  have hroute := withRoute_of_kept hroot hkept (some ⟨.empty, [], [], none⟩)
  unfold readFile
  rw [hslashes]
  rw [htext] at hroute ⊢
  have hhost : ('/' :: text).takeWhile (fun c => !Kind.file.endsAuthority c) = [] := by
    simp [Kind.endsAuthority, Kind.isSlash]
  have hrest : ('/' :: text).dropWhile (fun c => !Kind.file.endsAuthority c) = '/' :: text := by
    simp [Kind.endsAuthority, Kind.isSlash]
  simp only [hhost, hrest, visible, List.filter_nil, isDrive, Bool.false_eq_true, if_false,
    readFileHost, List.isEmpty_nil, if_true]
  exact congrArg Except.ok hroute

end

/-- The segments of the URL of a path are kept, if none of them steps back. -/
theorem exists_segments_ofPath {p : Path} (h : Path.parent ∉ p.components) :
    ∃ segments, Rooted segments ∧ (∀ s ∈ segments, Kept s) ∧
      ofPath p = ⟨fileScheme, some ⟨.empty, [], [], none⟩, .segments segments, none, none⟩ := by
  refine ⟨_, ?_, ?_, rfl⟩
  · unfold Rooted
    split
    · exact .inl rfl
    · next hne =>
      refine .inr ⟨by simpa using hne, fun s hs => ?_⟩
      obtain ⟨name, hname, rfl⟩ := List.mem_map.1 hs
      intro hnil
      have hdecode := decode_encode_fileName name
      rw [hnil] at hdecode
      exact (Path.mem_components hname).1 hdecode.symm
  · intro s hs
    split at hs
    · obtain rfl := List.mem_singleton.1 hs
      exact .nil
    · obtain ⟨name, hname, rfl⟩ := List.mem_map.1 hs
      have hparent : name ≠ Path.parent := fun heq => h (heq ▸ hname)
      exact kept_encode hparent (Path.mem_components hname).2.1

/-- The text of the URL of a path is a locator of a file, and it is read as the URL. -/
theorem read_text_ofPath {p : Path} (h : Path.parent ∉ p.components) :
    Protocol.ofLocator (ofPath p).text = .file ∧ read (ofPath p).text = .ok (ofPath p) := by
  obtain ⟨segments, hroot, hkept, hp⟩ := exists_segments_ofPath h
  have htext : (ofPath p).text.toList =
      "file".toList ++ ':' :: ('/' :: '/' :: segments.flatMap ('/' :: ·)) := by
    rw [hp]
    simp [text, print, printAuthority, Authority.print, Authority.printAccount, Host.print,
      Route.print, printPart, fileScheme]
  have htag : Protocol.ofTag "file".toList = .file := Protocol.ofTag_tag .file
  have hmargin : ('/' :: '/' :: segments.flatMap ('/' :: ·)).rdropWhile isMargin =
      '/' :: '/' :: segments.flatMap ('/' :: ·) := by
    have hall : ∀ c ∈ '/' :: '/' :: segments.flatMap ('/' :: ·), isMargin c = false := by
      intro c hc
      simp only [List.mem_cons] at hc
      rcases hc with rfl | rfl | hc
      · decide
      · decide
      · exact (print_segments_chars hkept hc).2.1
    refine List.rdropWhile_eq_self_iff.2 fun hne => ?_
    rw [hall _ (List.getLast_mem hne)]
    exact Bool.false_ne_true
  refine ⟨(Protocol.ofLocator_eq htext (by decide)).trans htag, ?_⟩
  rw [Protocol.read_eq htext htag (by decide), hmargin, hp]
  exact readFile_of_kept hroot hkept

end Url

/-! ## Locators -/

namespace Locator

/-- A locator that is a path, and steps back nowhere once it is seen from the base, becomes a URL
whose text leads to the same URL from any base. So a schema is loaded from the text of the URL as
it is from the locator, whatever the files and the limit are: with the same URL and content, or
with the same error. -/
theorem resolve_text {base : Path} {locator : String}
    (h : Protocol.ofLocator locator = .bare)
    (hparent : Path.parent ∉ (base.join (Path.ofString locator)).components) :
    ∃ url, resolve base locator = .ok url ∧ (∀ other, resolve other url.text = .ok url) ∧
      ∀ (m : Type → Type) [Monad m] (s : Source m) (limit : UInt64), s.base = base →
        s.schema limit url.text = s.schema limit locator := by
  have hresolve := resolve_bare h base
  obtain ⟨hfile, hread⟩ := Url.read_text_ofPath hparent
  generalize Url.ofPath (base.join (Path.ofString locator)) = url at hresolve hfile hread
  have hagain : ∀ other, resolve other url.text = .ok url := by
    intro other
    rw [resolve_known (by rw [hfile]; decide), hread]
    rfl
  refine ⟨url, hresolve, hagain, fun m _ s limit hbase => ?_⟩
  subst hbase
  have hlocate : s.locate url.text = s.locate locator := by
    simp only [Source.locate, hagain, hresolve, h, hfile, Except.mapError, Protocol.isRemote]
  unfold Source.schema
  rw [hlocate]

/-- A relative locator with escapes, a backslash, a query mark and blanks at its end. -/
theorem resolve_text_escapes :
    let base := Path.ofString "/tmp"
    let locator := "c|/.//%2e%2e/é?#\\x \t"
    Protocol.ofLocator locator = .bare ∧
      Path.parent ∉ (base.join (Path.ofString locator)).components ∧
      ∃ url, resolve base locator = .ok url ∧ (∀ other, resolve other url.text = .ok url) ∧
        ∀ (m : Type → Type) [Monad m] (s : Source m) (limit : UInt64), s.base = base →
          s.schema limit url.text = s.schema limit locator := by
  intro base locator
  have h : Protocol.ofLocator locator = .bare := by decide
  have hparent : Path.parent ∉ (base.join (Path.ofString locator)).components := by decide
  exact ⟨h, hparent, resolve_text h hparent⟩

end Locator

end SchemaRules
