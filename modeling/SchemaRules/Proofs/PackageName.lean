import SchemaRules.Proofs.Rejoining

/-!
# Package names

A package name is an id itself: one with dots for delimiters and no empty segment. So both policies
accept it, and it has the segments of the id that it came from. Only what is accepted differs from
one policy to the other, never how it is split.

* `exists_segments_eq`: the segments of an accepted id, in terms that do not name the policy.
* `segments_join_dot`: segments with dots between them, of which there may be none.
* `packageName_canonical`: package names under both policies.
-/

namespace SchemaRules.SchemaId

variable {policy : Policy} {id : String}

theorem normalize_of_segments {parts : List String} (h : segments policy id = .ok parts) :
    normalize policy id = .ok id := by
  unfold segments at h
  unfold normalize
  cases hcheck : check policy id.toList with
  | error issue => simp [hcheck, Except.map] at h
  | ok delimiter => rfl

theorem packageName_eq (policy : Policy) (id : String) :
    packageName policy id = (segments policy id).map (join '.') := rfl

/-- An accepted id has one kind of delimiter at most. -/
theorem exists_kinds_subset {id : List Char} (h : ¬Mixed policy id) :
    ∃ d ∈ delimiters, kinds id ⊆ {d} := by
  rcases (kinds id).eq_empty_or_nonempty with hnone | ⟨d, hd⟩
  · exact ⟨'.', by decide, by simp [hnone]⟩
  · exact ⟨d, (mem_kinds.1 hd).1, (kinds_eq_of_mem h hd).le⟩

/-- An accepted id is split at a delimiter that depends on the id only. -/
theorem exists_segments_eq (h : normalize policy id = .ok id) :
    ∃ parts, (∀ p ∈ parts, IsSegment p) ∧
      ∀ other, normalize other id = .ok id → segments other id = .ok parts := by
  obtain ⟨hill, hmixed, -⟩ := normalize_self_iff.1 h
  obtain ⟨d, hd, hkinds⟩ := exists_kinds_subset hmixed
  refine ⟨_, fun p hp => ?_, fun other hother => segments_eq hother hd hkinds⟩
  obtain ⟨part, hpart, rfl⟩ := List.mem_map.1 hp
  obtain ⟨hmem, hne⟩ := List.mem_filter.1 hpart
  exact isSegment_of_mem hill hkinds hmem (by simpa using hne)

/-- Segments with dots between them are accepted and split into themselves. There may be none: the
empty id has no segments. -/
theorem segments_join_dot {parts : List String} (hparts : ∀ p ∈ parts, IsSegment p)
    (policy : Policy) :
    normalize policy (join '.' parts) = .ok (join '.' parts) ∧
      segments policy (join '.' parts) = .ok parts := by
  by_cases hne : parts = []
  · subst hne
    cases policy <;> exact ⟨rfl, rfl⟩
  · have hdot : '.' ∈ delimiters := by decide
    have hpolicy : policy = .legacy → '.' ≠ '_' := fun _ => by decide
    exact ⟨normalize_join hne hparts hdot hpolicy, segments_join_eq hne hparts hdot hpolicy⟩

/-- A package name is the same under both policies: it is accepted unchanged, it has the segments
of the id, and it is its own package name. An id that both policies accept has the same segments
and the same package name under both. -/
theorem packageName_canonical (id : String) :
    (∀ policy n, packageName policy id = .ok n → ∀ other,
      normalize other n = .ok n ∧ segments other n = segments policy id ∧
        packageName other n = .ok n) ∧
    ((∀ policy, normalize policy id = .ok id) → ∃ parts n, ∀ policy,
      segments policy id = .ok parts ∧ packageName policy id = .ok n) := by
  refine ⟨fun policy n hname other => ?_, fun haccepted => ?_⟩
  · rw [packageName_eq] at hname
    cases hsegments : segments policy id with
    | error issue => simp [hsegments, Except.map] at hname
    | ok parts =>
      have haccepted := normalize_of_segments hsegments
      obtain ⟨others, hparts, hsplit⟩ := exists_segments_eq haccepted
      obtain rfl : others = parts := by simpa [hsegments] using (hsplit policy haccepted).symm
      obtain rfl : join '.' others = n := by simpa [hsegments, Except.map] using hname
      obtain ⟨hself, hagain⟩ := segments_join_dot hparts other
      exact ⟨hself, hagain, by rw [packageName_eq, hagain]; rfl⟩
  · obtain ⟨parts, -, hsplit⟩ := exists_segments_eq (haccepted .legacy)
    refine ⟨parts, join '.' parts, fun policy => ?_⟩
    have hsegments := hsplit policy (haccepted policy)
    exact ⟨hsegments, by rw [packageName_eq, hsegments]; rfl⟩

/-- An id with empty segments, one that is split at `_`, and one that both policies accept. -/
theorem packageName_canonical_slashes :
    (packageName .legacy "//a///b c/" = .ok "a.b c" ∧
      ∀ other, normalize other "a.b c" = .ok "a.b c" ∧
        segments other "a.b c" = segments .legacy "//a///b c/" ∧
        packageName other "a.b c" = .ok "a.b c") ∧
    (packageName .strict "é_1" = .ok "é.1" ∧
      ∀ other, normalize other "é.1" = .ok "é.1" ∧
        segments other "é.1" = segments .strict "é_1" ∧ packageName other "é.1" = .ok "é.1") ∧
    (∀ policy, normalize policy "x:y" = .ok "x:y") ∧
      ∃ parts n, ∀ policy,
        segments policy "x:y" = .ok parts ∧ packageName policy "x:y" = .ok n := by
  have hslashes : packageName .legacy "//a///b c/" = .ok "a.b c" := by decide
  have hunderscore : packageName .strict "é_1" = .ok "é.1" := by decide
  have haccepted : ∀ policy, normalize policy "x:y" = .ok "x:y" := by
    intro policy
    cases policy <;> decide
  exact ⟨⟨hslashes, (packageName_canonical _).1 _ _ hslashes⟩,
    ⟨hunderscore, (packageName_canonical _).1 _ _ hunderscore⟩,
    haccepted, (packageName_canonical _).2 haccepted⟩

end SchemaRules.SchemaId
