import Mathlib.Data.List.Nodup
import AvClient.Json

/-!
# Objects keyed by contest id

`ContestIndexed<T>` and `ContestMap<T>` are plain JavaScript objects whose property names are
contest ids. An object's own properties have distinct names and an order, which `for … in`,
`Object.keys`, `Object.fromEntries` and `JSON.stringify` all follow. `ContestMap` keeps the
properties as a list in that order and carries the distinctness of their names as a field, so
no value of it repeats a property.

## Main results

* `get?_set_self`, `get?_set_ne` — assignment `m[k] = v` is a functional update.
* `entries_set_of_not_mem` — assigning a property the object does not have appends it.
* `mapExcept_ok` — a key-by-key rebuild that succeeds keeps the keys and maps each value.
-/

namespace AvClient

open Json

/-- A JavaScript object keyed by contest id: its own properties in property order. -/
structure ContestMap (α : Type) where
  entries : List (JsString × α)
  nodup : (entries.map Prod.fst).Nodup

namespace ContestMap

variable {α β ε : Type}

@[ext] theorem ext {m m' : ContestMap α} (h : m.entries = m'.entries) : m = m' := by
  cases m; cases m'; cases h; rfl

instance [DecidableEq α] : DecidableEq (ContestMap α) := fun m m' =>
  decidable_of_iff (m.entries = m'.entries) ⟨ext, fun h => h ▸ rfl⟩

/-- Names of the own properties, `Object.keys(m)`. -/
def keys (m : ContestMap α) : List JsString := m.entries.map Prod.fst

/-- Property read `m[k]`: `none` is `undefined`. -/
def get? (m : ContestMap α) (k : JsString) : Option α := m.entries.lookup k

/-- The empty object `{}`. -/
def empty : ContestMap α := ⟨[], List.nodup_nil⟩

/-- The object with the given properties, when their names are distinct. -/
def ofEntries? (l : List (JsString × α)) : Option (ContestMap α) :=
  if h : (l.map Prod.fst).Nodup then some ⟨l, h⟩ else none

/-- A property with the value `v` when its name is `k`, unchanged otherwise. -/
def updateEntry (k : JsString) (v : α) (p : JsString × α) : JsString × α :=
  if p.1 = k then (p.1, v) else p

@[simp] theorem updateEntry_fst (k : JsString) (v : α) (p : JsString × α) :
    (updateEntry k v p).1 = p.1 := by
  unfold updateEntry; split <;> rfl

private theorem nodup_append_fresh (m : ContestMap α) {k : JsString} (v : α) (h : k ∉ m.keys) :
    ((m.entries ++ [(k, v)]).map Prod.fst).Nodup := by
  rw [List.map_append, List.nodup_append]
  exact ⟨m.nodup, List.nodup_singleton k, by simpa [keys] using h⟩

/-- Assignment `m[k] = v`: a property `k` already there takes the value in place, and a new
one is appended. -/
def set (m : ContestMap α) (k : JsString) (v : α) : ContestMap α :=
  if h : k ∈ m.keys then
    ⟨m.entries.map (updateEntry k v), by simpa [List.map_map, Function.comp_def] using m.nodup⟩
  else ⟨m.entries ++ [(k, v)], nodup_append_fresh m v h⟩

/-- Function `Object.fromEntries(Object.keys(m).map(k => [k, f(k, m[k])]))`. -/
def mapWithKey (f : JsString → α → β) (m : ContestMap α) : ContestMap β :=
  ⟨m.entries.map fun p => (p.1, f p.1 p.2), by simpa [List.map_map] using m.nodup⟩

/-- Key-by-key rebuild where each value's computation may throw: the first exception, or the
rebuilt list of properties. -/
def mapEntries (f : JsString → α → Except ε β) :
    List (JsString × α) → Except ε (List (JsString × β))
  | [] => .ok []
  | (k, a) :: rest =>
    match f k a, mapEntries f rest with
    | .ok b, .ok bs => .ok ((k, b) :: bs)
    | .error e, _ => .error e
    | .ok _, .error e => .error e

theorem mapEntries_keys {f : JsString → α → Except ε β} :
    ∀ {l : List (JsString × α)} {l' : List (JsString × β)}, mapEntries f l = .ok l' →
      l'.map Prod.fst = l.map Prod.fst
  | [], l', h => by cases h; rfl
  | (k, a) :: rest, l', h => by
    unfold mapEntries at h
    split at h <;> cases h
    next hrest => simpa using mapEntries_keys hrest

/-- Function `Object.fromEntries(Object.keys(m).map(k => [k, f(k, m[k])]))` for an `f` that
may throw: it throws the first exception a property raises. -/
def mapExcept (f : JsString → α → Except ε β) (m : ContestMap α) :
    Except ε (ContestMap β) :=
  match h : mapEntries f m.entries with
  | .ok l => .ok ⟨l, by rw [mapEntries_keys h]; exact m.nodup⟩
  | .error e => .error e

/-! ### Reading after writing -/

@[simp] theorem keys_empty : (empty : ContestMap α).keys = [] := rfl

@[simp] theorem get?_empty (k : JsString) : (empty : ContestMap α).get? k = none := rfl

theorem mem_keys_iff_get?_isSome {m : ContestMap α} {k : JsString} :
    k ∈ m.keys ↔ (m.get? k).isSome := by
  simp only [keys, get?, List.lookup_isSome_iff, List.mem_map, beq_iff_eq]
  exact ⟨fun ⟨p, hp, hk⟩ => ⟨p, hp, hk.symm⟩,
    fun ⟨p, hp, hk⟩ => ⟨p, hp, hk.symm⟩⟩

theorem entries_set_of_not_mem {m : ContestMap α} {k : JsString} (v : α) (h : k ∉ m.keys) :
    (m.set k v).entries = m.entries ++ [(k, v)] := by
  simp [set, h]

theorem keys_set_of_not_mem {m : ContestMap α} {k : JsString} (v : α) (h : k ∉ m.keys) :
    (m.set k v).keys = m.keys ++ [k] := by
  simp [keys, entries_set_of_not_mem v h]

private theorem lookup_map_updateEntry (l : List (JsString × α)) (k k' : JsString) (v : α) :
    (l.map (updateEntry k v)).lookup k' =
      if k' = k then (l.lookup k').map fun _ => v else l.lookup k' := by
  induction l with
  | nil => simp
  | cons p l ih =>
    obtain ⟨k₀, b⟩ := p
    by_cases hk : k' = k₀
    · subst hk
      by_cases h₀ : k' = k <;> simp [updateEntry, h₀]
    · have hb : (k' == k₀) = false := beq_eq_false_iff_ne.mpr hk
      by_cases h₀ : k₀ = k
      · subst h₀; simp [updateEntry, List.lookup_cons, hb, hk, ih]
      · simp [updateEntry, h₀, List.lookup_cons, hb, ih]

private theorem lookup_append_fresh (l : List (JsString × α)) (k k' : JsString) (v : α)
    (h : k ∉ l.map Prod.fst) :
    (l ++ [(k, v)]).lookup k' = if k' = k then some v else l.lookup k' := by
  rw [List.lookup_append]
  by_cases hk : k' = k
  · subst hk
    have : l.lookup k' = none := List.lookup_eq_none_iff.mpr fun p hp =>
      bne_iff_ne.mpr fun he => h (List.mem_map.mpr ⟨p, hp, he.symm⟩)
    simp [this]
  · have hb : (k' == k) = false := beq_eq_false_iff_ne.mpr hk
    simp only [List.lookup_cons, hb, hk, if_false, List.lookup_nil]
    cases l.lookup k' <;> rfl

@[simp] theorem get?_set (m : ContestMap α) (k k' : JsString) (v : α) :
    (m.set k v).get? k' = if k' = k then some v else m.get? k' := by
  unfold set get?
  split
  · next h =>
    rw [lookup_map_updateEntry]
    by_cases hk : k' = k
    · subst hk
      obtain ⟨a, ha⟩ := Option.isSome_iff_exists.mp (mem_keys_iff_get?_isSome.mp h)
      simp [get?] at ha
      simp [ha]
    · simp [hk]
  · next h => exact lookup_append_fresh _ k k' v h

theorem get?_set_self (m : ContestMap α) (k : JsString) (v : α) :
    (m.set k v).get? k = some v := by
  simp

theorem get?_set_ne (m : ContestMap α) {k k' : JsString} (v : α) (h : k' ≠ k) :
    (m.set k v).get? k' = m.get? k' := by
  simp [h]

@[simp] theorem keys_mapWithKey (f : JsString → α → β) (m : ContestMap α) :
    (m.mapWithKey f).keys = m.keys := by
  simp [mapWithKey, keys, List.map_map, Function.comp_def]

private theorem lookup_map_value (f : JsString → α → β) (l : List (JsString × α))
    (k : JsString) :
    (l.map fun p => (p.1, f p.1 p.2)).lookup k = (l.lookup k).map (f k) := by
  induction l with
  | nil => rfl
  | cons p l ih =>
    obtain ⟨k₀, b⟩ := p
    by_cases hk : k = k₀
    · subst hk; simp
    · simp [List.lookup_cons, beq_eq_false_iff_ne.mpr hk, ih]

@[simp] theorem get?_mapWithKey (f : JsString → α → β) (m : ContestMap α) (k : JsString) :
    (m.mapWithKey f).get? k = (m.get? k).map (f k) :=
  lookup_map_value f m.entries k

theorem mapEntries_ok {f : JsString → α → Except ε β} :
    ∀ {l : List (JsString × α)} {l' : List (JsString × β)}, mapEntries f l = .ok l' →
      ∀ k, (l.lookup k).bind (fun a => (f k a).toOption) = l'.lookup k
  | [], l', h, k => by cases h; rfl
  | (k₀, a) :: rest, l', h, k => by
    unfold mapEntries at h
    split at h <;> cases h
    next b bs hb hrest =>
      by_cases hk : k = k₀
      · subst hk; simp [hb, Except.toOption]
      · simp [List.lookup_cons, beq_eq_false_iff_ne.mpr hk, mapEntries_ok hrest k]

/-- A rebuild that succeeds keeps the keys in order and maps each value. -/
theorem mapExcept_ok {f : JsString → α → Except ε β} {m : ContestMap α} {m' : ContestMap β}
    (h : m.mapExcept f = .ok m') :
    m'.keys = m.keys ∧ ∀ k, m'.get? k = (m.get? k).bind fun a => (f k a).toOption := by
  unfold mapExcept at h
  split at h
  · next l hl =>
    cases h
    exact ⟨mapEntries_keys hl, fun k => (mapEntries_ok hl k).symm⟩
  · cases h

/-- In a rebuild that succeeds, each property's computation succeeded with the new value. -/
theorem mapExcept_ok_get? {f : JsString → α → Except ε β} {m : ContestMap α}
    {m' : ContestMap β} (h : m.mapExcept f = .ok m') {k : JsString} {a : α}
    (hk : m.get? k = some a) :
    ∃ b, f k a = .ok b ∧ m'.get? k = some b := by
  obtain ⟨hkeys, hget⟩ := mapExcept_ok h
  have hmem : k ∈ m'.keys := hkeys ▸ mem_keys_iff_get?_isSome.mpr (by simp [hk])
  obtain ⟨b, hb⟩ := Option.isSome_iff_exists.mp (mem_keys_iff_get?_isSome.mp hmem)
  rw [hget k, hk, Option.some_bind] at hb
  cases hf : f k a <;> simp_all [Except.toOption]

theorem mapEntries_error {f : JsString → α → Except ε β} {e : ε}
    (hall : ∀ k a e', f k a = .error e' → e' = e) :
    ∀ {l : List (JsString × α)} {p : JsString × α}, p ∈ l → f p.1 p.2 = .error e →
      mapEntries f l = .error e
  | (k, a) :: rest, p, hp, hf => by
    unfold mapEntries
    rcases hka : f k a with e' | b
    · simp [hall k a e' hka]
    rcases List.mem_cons.mp hp with rfl | hp
    · simp_all
    · simp [mapEntries_error hall hp hf]

/-- A rebuild where every exception is `e` throws `e` as soon as one property does. -/
theorem mapExcept_error {f : JsString → α → Except ε β} {m : ContestMap α} {e : ε}
    (hall : ∀ k a e', f k a = .error e' → e' = e) {p : JsString × α} (hp : p ∈ m.entries)
    (hf : f p.1 p.2 = .error e) : m.mapExcept f = .error e := by
  unfold mapExcept
  split
  · next l hl => rw [mapEntries_error hall hp hf] at hl; cases hl
  · next e' hl => rw [mapEntries_error hall hp hf] at hl; cases hl; rfl

end ContestMap

end AvClient
