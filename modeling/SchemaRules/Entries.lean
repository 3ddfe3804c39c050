/-!
# Entries

A list of keys with their values, in the order of their first appearance.

* `Entries.keys_put`: putting an entry leaves the order of the keys, and appends a new key.
* `Entries.nodup_keys_put`: keys stay distinct.
* `Entries.lookup_put`: the key has its new value, and every other key the value it had.
* `Entries.ofWritten_of_nodup`: entries with distinct keys stay as they are written.
-/

namespace SchemaRules

namespace Entries

variable {κ α : Type}

/-- The keys in order. -/
def keys (entries : List (κ × α)) : List κ :=
  entries.map Prod.fst

@[simp] theorem keys_nil : keys ([] : List (κ × α)) = [] := rfl

@[simp] theorem keys_cons (e : κ × α) (entries : List (κ × α)) :
    keys (e :: entries) = e.1 :: keys entries := rfl

variable [DecidableEq κ]

/-- The value of a key is the one of the first entry that has it. -/
theorem lookup_cons_eq_ite [BEq κ] [LawfulBEq κ] (k : κ) (e : κ × α) (entries : List (κ × α)) :
    (e :: entries).lookup k = if k = e.1 then some e.2 else entries.lookup k := by
  rw [List.lookup_cons]
  by_cases h : k = e.1
  · simp [h]
  · simp [h, beq_false_of_ne h]

/-- A value that a key has stands with it. -/
theorem mem_of_lookup [BEq κ] [LawfulBEq κ] {k : κ} {value : α} {entries : List (κ × α)}
    (h : entries.lookup k = some value) : (k, value) ∈ entries := by
  induction entries with
  | nil => cases h
  | cons e rest ih =>
    rw [lookup_cons_eq_ite] at h
    split at h
    · next hk =>
      obtain rfl : e.2 = value := by simpa using h
      simp [hk]
    · exact List.mem_cons_of_mem _ (ih h)

/-- Gives a key a value: in its place where the key is there, else at the end. -/
def put (entries : List (κ × α)) (key : κ) (value : α) : List (κ × α) :=
  match entries with
  | [] => [(key, value)]
  | (k, v) :: rest => if k = key then (k, value) :: rest else (k, v) :: put rest key value

theorem keys_put (entries : List (κ × α)) (key : κ) (value : α) :
    keys (put entries key value)
      = if key ∈ keys entries then keys entries else keys entries ++ [key] := by
  induction entries with
  | nil => simp [put]
  | cons e rest ih =>
    obtain ⟨k, v⟩ := e
    by_cases h : k = key
    · simp [put, h]
    · have h' : ¬key = k := fun e => h e.symm
      by_cases hk : key ∈ keys rest <;> simp [put, h, h', ih, hk]

theorem lookup_put [BEq κ] [LawfulBEq κ] (entries : List (κ × α)) (key : κ) (value : α)
    (k : κ) :
    (put entries key value).lookup k = if k = key then some value else entries.lookup k := by
  induction entries with
  | nil => simp [put, lookup_cons_eq_ite]
  | cons e rest ih =>
    obtain ⟨k', v⟩ := e
    by_cases h : k' = key
    · subst h
      by_cases hk : k = k' <;> simp [put, lookup_cons_eq_ite, hk]
    · by_cases hk : k = k'
      · subst hk
        simp [put, lookup_cons_eq_ite, h]
      · simp [put, lookup_cons_eq_ite, h, hk, ih]

/-- A new key comes last. -/
theorem put_of_notMem {entries : List (κ × α)} {key : κ} (h : key ∉ keys entries) (value : α) :
    put entries key value = entries ++ [(key, value)] := by
  induction entries with
  | nil => rfl
  | cons e rest ih =>
    obtain ⟨k, v⟩ := e
    rw [keys_cons, List.mem_cons, not_or] at h
    rw [put, if_neg (Ne.symm h.1), ih h.2, List.cons_append]

theorem mem_put {entries : List (κ × α)} {key : κ} {value : α} {e : κ × α}
    (h : e ∈ put entries key value) : e ∈ entries ∨ e = (key, value) := by
  induction entries with
  | nil => exact .inr (List.mem_singleton.1 h)
  | cons other rest ih =>
    obtain ⟨k, v⟩ := other
    rw [put] at h
    split at h
    · next hk =>
      rcases List.mem_cons.1 h with rfl | h
      · exact .inr (by rw [hk])
      · exact .inl (List.mem_cons_of_mem _ h)
    · rcases List.mem_cons.1 h with rfl | h
      · exact .inl List.mem_cons_self
      · exact (ih h).imp_left (List.mem_cons_of_mem _)

theorem nodup_keys_put {entries : List (κ × α)} (h : (keys entries).Nodup) (key : κ)
    (value : α) : (keys (put entries key value)).Nodup := by
  rw [keys_put]
  split
  · exact h
  · next hk => exact List.nodup_append.2 ⟨h, by simp, fun a ha b hb => by
      simp only [List.mem_singleton] at hb
      rintro rfl
      exact hk (hb ▸ ha)⟩

/-- Entries that are put one after the other. -/
def ofWritten (written : List (κ × α)) : List (κ × α) :=
  written.foldl (fun entries e => put entries e.1 e.2) []

theorem nodup_keys_ofWritten (written : List (κ × α)) : (keys (ofWritten written)).Nodup := by
  have aux : ∀ (l acc : List (κ × α)), (keys acc).Nodup →
      (keys (l.foldl (fun entries e => put entries e.1 e.2) acc)).Nodup := by
    intro l
    induction l with
    | nil => intro acc h; exact h
    | cons e rest ih => intro acc h; exact ih _ (nodup_keys_put h e.1 e.2)
  exact aux written [] List.nodup_nil

/-- Each entry has been written. -/
theorem mem_of_mem_ofWritten {written : List (κ × α)} {e : κ × α} (h : e ∈ ofWritten written) :
    e ∈ written := by
  have aux : ∀ (l acc : List (κ × α)), e ∈ l.foldl (fun entries e => put entries e.1 e.2) acc →
      e ∈ acc ∨ e ∈ l := by
    intro l
    induction l with
    | nil => exact fun acc h => .inl h
    | cons next rest ih =>
      intro acc h
      rcases ih _ h with h | h
      · exact (mem_put h).imp_right fun (hnext : e = next) => hnext ▸ List.mem_cons_self
      · exact .inr (List.mem_cons_of_mem next h)
  exact (aux written [] h).resolve_left List.not_mem_nil

/-- Entries with distinct keys stay as they are written. -/
theorem ofWritten_of_nodup {entries : List (κ × α)} (h : (keys entries).Nodup) :
    ofWritten entries = entries := by
  have aux : ∀ l acc : List (κ × α), (keys (acc ++ l)).Nodup →
      l.foldl (fun entries e => put entries e.1 e.2) acc = acc ++ l := by
    intro l
    induction l with
    | nil => exact fun acc _ => (List.append_nil acc).symm
    | cons e rest ih =>
      intro acc h
      have hnew : e.1 ∉ keys acc := by
        rw [keys, List.map_append, List.nodup_append] at h
        exact fun hmem => h.2.2 _ hmem _ List.mem_cons_self rfl
      rw [List.append_cons] at h ⊢
      rw [List.foldl_cons, put_of_notMem hnew, ih _ h]
  exact aux entries [] h

end Entries

end SchemaRules
