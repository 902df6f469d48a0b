import EdgeProxy.Proofs.Result
import EdgeProxy.Settings.Load
/-!
Maps of values: what stands under a text key, and which values are taken for a map where one is asked for.
-/

namespace EdgeProxy.Yaml

variable {k v : Value} {key : String} {pairs : List (Value × Value)}

/-- Only a text is the same key as a text. -/
theorem sameKey_text_iff : k.sameKey (.text key) = true ↔ k = .text key := by
  cases k with
  | text s => simp [Value.sameKey]
  | _ => simp [Value.sameKey, Value.number?]

theorem lookup_cons_self (pairs : List (Value × Value)) (key : String) (v : Value) :
    lookup ((.text key, v) :: pairs) key = some v := by
  have hsame : (Value.text key).sameKey (.text key) = true := sameKey_text_iff.mpr rfl
  simp [lookup, hsame]

theorem lookup_cons_of_ne (h : k ≠ .text key) : lookup ((k, v) :: pairs) key = lookup pairs key := by
  have hsame : k.sameKey (.text key) = false := Bool.eq_false_iff.mpr (mt sameKey_text_iff.mp h)
  simp [lookup, hsame]

/-- Giving a key a value does not touch the other keys. -/
theorem lookup_setKey_of_ne {other : String} (h : other ≠ key) (pairs : List (Value × Value)) (v : Value) :
    lookup (setKey pairs (.text other) v) key = lookup pairs key := by
  have hne : Value.text other ≠ .text key := by simpa using h
  induction pairs with
  | nil => exact lookup_cons_of_ne hne
  | cons p rest ih =>
      obtain ⟨k, w⟩ := p
      rw [setKey]
      split
      next hsame =>
        have hk : k ≠ .text key := sameKey_text_iff.mp hsame ▸ hne
        rw [lookup_cons_of_ne hk, lookup_cons_of_ne hk]
      next hsame =>
        by_cases hk : k = .text key
        · rw [hk, lookup_cons_self, lookup_cons_self]
        · rw [lookup_cons_of_ne hk, lookup_cons_of_ne hk, ih]

/-- An item of a list of pairs spells a pair: it has two items, the first of which can be a key, two keys, or two
characters. -/
inductive SpellsPair : Value → Value × Value → Prop where
  | list {k v : Value} (hkey : k.isKey = true) : SpellsPair (.list [k, v]) (k, v)
  | map (k a v b : Value) : SpellsPair (.map [(k, a), (v, b)]) (k, v)
  | text {s : String} {c d : Char} (hs : s.toList = [c, d]) :
      SpellsPair (.text s) (.text (String.singleton c), .text (String.singleton d))

/-- A value is taken for a map: it is one, an empty text, or a list of pairs, the later of which replace earlier
ones. -/
inductive SpellsMap : Value → List (Value × Value) → Prop where
  | map (pairs : List (Value × Value)) : SpellsMap (.map pairs) pairs
  | nothing : SpellsMap (.text "") []
  | list {items : List Value} {pairs : List (Value × Value)} (h : List.Forall₂ SpellsPair items pairs) :
      SpellsMap (.list items) (ofPairs pairs)

theorem pairOf_eq_ok_iff {p : Value × Value} : pairOf v = .ok p ↔ SpellsPair v p := by
  constructor
  · intro h
    unfold pairOf at h
    split at h
    next k w =>
      split at h
      next hkey => cases h; exact .list hkey
      next => cases h
    next k a w b => cases h; exact .map k a w b
    next => cases h
    next => cases h
    next s =>
      split at h
      next c d hs => cases h; exact .text hs
      next => cases h
    next => cases h
  · intro h
    cases h with
    | list hkey => rw [pairOf, if_pos hkey]
    | map => rfl
    | text hs => simp [pairOf, hs]

theorem pairsOf_eq_ok_iff : pairsOf v = .ok pairs ↔ SpellsMap v pairs := by
  have hitems : ∀ {items : List Value} {found : List (Value × Value)},
      items.mapM pairOf = .ok found ↔ List.Forall₂ SpellsPair items found := by
    intro items found
    simp only [mapM_eq_ok_iff, pairOf_eq_ok_iff]
  constructor
  · intro h
    unfold pairsOf at h
    split at h
    next => cases h; exact .map _
    next =>
      obtain ⟨found, hfound, rfl⟩ := map_eq_ok.mp h
      exact .list (hitems.mp hfound)
    next s =>
      split at h
      next hs =>
        cases h
        rw [String.isEmpty_iff] at hs
        exact hs ▸ .nothing
      next => cases h
    next => cases h
  · intro h
    cases h with
    | map => rfl
    | nothing => rfl
    | list h => exact map_eq_ok.mpr ⟨_, hitems.mpr h, rfl⟩

end EdgeProxy.Yaml
