/-
  Pasteboard.Lib.Wire
  ───────────────────
  **TYPED MESSAGE BUFFERS AND THE RULES OF CODECS OVER THEM.**

  A `Wire κ V` is a buffer one end writes items to and the other end reads
  them from: an item has a kind `k : κ` and a value of the type `V k`.  The
  interface alone promises nothing; `Wire.Fifo` is the promise that reads
  return the written items in the order of writing, provided every item is
  read with its own kind.  What a read of the WRONG kind does is left open.

  Three judgements carry every proof about a codec:

    • `F.Emits w xs`       — whenever the writer `w` succeeds it has appended
                             exactly the items `xs`,
    • `F.Consumes r xs a`  — in front of `xs` the reader `r` takes exactly
                             these items and returns `a`,
    • `W.Yields r P`       — on EVERY buffer (no promise on its content) the
                             value `r` returns satisfies `P`.

  Each has one rule per way of building a writer or a reader.  `roundTrip`
  puts an `Emits` and a `Consumes` over the same items together.
-/
import Mathlib.Data.List.Basic

namespace Pasteboard.Lib

/-! ## §1. Buffers, writers and readers. -/

/-- A buffer of typed items.  `write` returns `none` where the write fails;
`read` is total. -/
structure Wire (κ : Type) (V : κ → Type) where
  Buf : Type
  empty : Buf
  write : (k : κ) → V k → Buf → Option Buf
  read : (k : κ) → Buf → V k × Buf

variable {κ : Type} {V : κ → Type}

/-- An item on the wire: its kind and its value. -/
abbrev Item (V : κ → Type) : Type := (k : κ) × V k

namespace Wire

/-- A writer extends a buffer, or fails. -/
abbrev Writer (W : Wire κ V) : Type := W.Buf → Option W.Buf

/-- A reader takes its value off a buffer. -/
abbrev Reader (W : Wire κ V) (α : Type) : Type := StateM W.Buf α

/-- Write a list of values one after the other. -/
def writeList {W : Wire κ V} {α : Type} (f : α → W.Writer) : List α → W.Writer
  | [] => some
  | a :: as => f a >=> writeList f as

/-- Write given items one after the other. -/
def writeItems (W : Wire κ V) : List (Item V) → W.Writer :=
  writeList fun i => W.write i.1 i.2

/-- The writer works on every buffer. -/
def Succeeds {W : Wire κ V} (w : W.Writer) : Prop := ∀ b, ∃ b', w b = some b'

theorem succeeds_skip {W : Wire κ V} : Succeeds (some : W.Writer) :=
  fun b => ⟨b, rfl⟩

theorem succeeds_seq {W : Wire κ V} {w w' : W.Writer} (h : Succeeds w)
    (h' : Succeeds w') : Succeeds (w >=> w') := by
  intro b
  obtain ⟨m, hm⟩ := h b
  obtain ⟨b', hb'⟩ := h' m
  refine ⟨b', ?_⟩
  show (w b).bind w' = some b'
  rw [hm]
  exact hb'

theorem succeeds_writeList {W : Wire κ V} {α : Type} {f : α → W.Writer} :
    ∀ (as : List α), (∀ a ∈ as, Succeeds (f a)) → Succeeds (writeList f as)
  | [], _ => succeeds_skip
  | a :: as, h =>
      succeeds_seq (h a List.mem_cons_self)
        (succeeds_writeList as fun x hx => h x (List.mem_cons_of_mem _ hx))

/-! ## §2. The FIFO promise. -/

/-- Reads return the written items in order, each read with its own kind. -/
structure Fifo (W : Wire κ V) where
  /-- The items written and not yet read. -/
  unread : W.Buf → List (Item V)
  unread_empty : unread W.empty = []
  unread_write : ∀ {k : κ} {v : V k} {b b' : W.Buf},
    W.write k v b = some b' → unread b' = unread b ++ [⟨k, v⟩]
  read_head : ∀ {k : κ} {v : V k} {b : W.Buf} {rest : List (Item V)},
    unread b = ⟨k, v⟩ :: rest →
      (W.read k b).1 = v ∧ unread (W.read k b).2 = rest

namespace Fifo

variable {W : Wire κ V} (F : W.Fifo) {α β : Type}

/-! ## §3. What a writer appends. -/

/-- Whenever `w` succeeds it has appended exactly `xs`. -/
def Emits (w : W.Writer) (xs : List (Item V)) : Prop :=
  ∀ b b', w b = some b' → F.unread b' = F.unread b ++ xs

theorem emits_write (k : κ) (v : V k) : F.Emits (W.write k v) [⟨k, v⟩] :=
  fun _ _ h => F.unread_write h

theorem emits_skip : F.Emits some [] := by
  intro b b' h
  injection h with h
  subst h
  simp

/-- A writer that always fails keeps any promise. -/
theorem emits_fail (xs : List (Item V)) : F.Emits (fun _ => none) xs := by
  intro b b' h
  cases h

theorem emits_seq {w w' : W.Writer} {xs ys : List (Item V)}
    (h : F.Emits w xs) (h' : F.Emits w' ys) : F.Emits (w >=> w') (xs ++ ys) := by
  intro b b' hb
  simp only [Bind.kleisliRight, Option.bind_eq_bind,
    Option.bind_eq_some_iff] at hb
  obtain ⟨m, hm, hb'⟩ := hb
  rw [h' m b' hb', h b m hm, List.append_assoc]

theorem emits_writeList {f : α → W.Writer} {g : α → List (Item V)} :
    ∀ (as : List α), (∀ a ∈ as, F.Emits (f a) (g a)) →
      F.Emits (writeList f as) (as.flatMap g)
  | [], _ => F.emits_skip
  | a :: as, h => by
      rw [List.flatMap_cons]
      exact F.emits_seq (h a List.mem_cons_self)
        (emits_writeList as fun x hx => h x (List.mem_cons_of_mem _ hx))

theorem emits_writeItems (xs : List (Item V)) :
    F.Emits (W.writeItems xs) xs := by
  have h := F.emits_writeList (f := fun i : Item V => W.write i.1 i.2)
    (g := fun i => [i]) xs (fun i _ => F.emits_write i.1 i.2)
  rwa [List.flatMap_singleton'] at h

/-! ## §4. What a reader consumes. -/

/-- In front of `xs`, the reader takes exactly `xs` and returns `a`. -/
def Consumes (r : W.Reader α) (xs : List (Item V)) (a : α) : Prop :=
  ∀ b rest, F.unread b = xs ++ rest →
    (r b).1 = a ∧ F.unread (r b).2 = rest

theorem consumes_read (k : κ) (v : V k) : F.Consumes (W.read k) [⟨k, v⟩] v :=
  fun _ _ h => F.read_head h

theorem consumes_pure (a : α) : F.Consumes (pure a) [] a :=
  fun _ _ h => ⟨rfl, h⟩

theorem consumes_bind {r : W.Reader α} {f : α → W.Reader β}
    {xs ys : List (Item V)} {a : α} {c : β}
    (h : F.Consumes r xs a) (h' : F.Consumes (f a) ys c) :
    F.Consumes (r >>= f) (xs ++ ys) c := by
  intro b rest hb
  obtain ⟨ha, hrest⟩ := h b (ys ++ rest) (by rw [hb, List.append_assoc])
  subst ha
  exact h' (r b).2 rest hrest

/-- The common case of `consumes_bind`: one item, then the rest. -/
theorem consumes_read_bind {k : κ} {v : V k} {f : V k → W.Reader β}
    {ys : List (Item V)} {c : β} (h : F.Consumes (f v) ys c) :
    F.Consumes ((W.read k : W.Reader (V k)) >>= f) (⟨k, v⟩ :: ys) c :=
  F.consumes_bind (F.consumes_read k v) h

/-- Returning a function of what was read takes nothing more. -/
theorem consumes_map {r : W.Reader α} {xs : List (Item V)} {a : α}
    (f : α → β) (h : F.Consumes r xs a) :
    F.Consumes (do let x ← r; return f x) xs (f a) := by
  rw [← List.append_nil xs]
  exact F.consumes_bind h (F.consumes_pure (f a))

/-- **Round trip.**  If `w` emits `xs ++ ys` and `r` consumes `xs` as `a`,
then reading what `w` wrote into a fresh buffer, followed by any further
items, returns `a` and leaves `ys` and these further items. -/
theorem roundTrip {w : W.Writer} {r : W.Reader α} {xs ys more : List (Item V)}
    {a : α} {b b' : W.Buf} (he : F.Emits w (xs ++ ys)) (hc : F.Consumes r xs a)
    (hb : w W.empty = some b) (hb' : W.writeItems more b = some b') :
    (r b').1 = a ∧ F.unread (r b').2 = ys ++ more := by
  refine hc b' (ys ++ more) ?_
  rw [F.emits_writeItems more b b' hb', he W.empty b hb, F.unread_empty,
    List.nil_append, List.append_assoc]

end Fifo

/-! ## §5. What a reader yields on any buffer. -/

variable {W : Wire κ V} {α β : Type}

/-- On every buffer, the value `r` returns satisfies `P`. -/
def Yields (r : W.Reader α) (P : α → Prop) : Prop := ∀ b, P (r b).1

theorem yields_pure {P : α → Prop} {a : α} (h : P a) :
    Yields (W := W) (pure a) P :=
  fun _ => h

theorem yields_bind {r : W.Reader α} {f : α → W.Reader β} {P : α → Prop}
    {Q : β → Prop} (h : Yields r P) (h' : ∀ a, P a → Yields (f a) Q) :
    Yields (r >>= f) Q :=
  fun b => h' (r b).1 (h b) (r b).2

/-- Nothing is known about the value a bare read returns. -/
theorem yields_read_bind {k : κ} {f : V k → W.Reader β} {Q : β → Prop}
    (h : ∀ v, Yields (f v) Q) :
    Yields ((W.read k : W.Reader (V k)) >>= f) Q :=
  fun b => h (W.read k b).1 (W.read k b).2

/-! ## §6. Strict wires: what a failed read leaves. -/

namespace Fifo

variable (F : W.Fifo)

/-- A read that does not find its kind in front loses the rest. -/
def Strict : Prop :=
  ∀ (k : κ) (b : W.Buf), (∀ v rest, F.unread b ≠ ⟨k, v⟩ :: rest) →
    F.unread (W.read k b).2 = []

/-- On a buffer holding exactly `xs`, the reader leaves nothing unread. -/
def Drains (r : W.Reader α) (xs : List (Item V)) : Prop :=
  ∀ b, F.unread b = xs → F.unread (r b).2 = []

theorem drains_pure (a : α) : F.Drains (pure a) [] := fun _ h => h

theorem drains_bind {r : W.Reader α} {f : α → W.Reader β} {xs : List (Item V)}
    (h : F.Drains r xs) (h' : ∀ a, F.Drains (f a) []) :
    F.Drains (r >>= f) xs :=
  fun b hb => h' (r b).1 (r b).2 (h b hb)

theorem drains_of_consumes {r : W.Reader α} {f : α → W.Reader β}
    {xs ys : List (Item V)} {a : α} (h : F.Consumes r xs a)
    (h' : F.Drains (f a) ys) : F.Drains (r >>= f) (xs ++ ys) := by
  intro b hb
  obtain ⟨ha, hrest⟩ := h b ys hb
  subst ha
  exact h' (r b).2 hrest

/-- The last item, read with its own kind. -/
theorem drains_read_last (k : κ) (v : V k) : F.Drains (W.read k) [⟨k, v⟩] :=
  fun _ hb => (F.read_head hb).2

variable {F}

theorem Strict.drains_read_nil (S : F.Strict) (k : κ) :
    F.Drains (W.read k) [] := by
  intro b hb
  refine S k b fun v rest h => ?_
  rw [hb] at h
  cases h

theorem Strict.drains_read_wrong (S : F.Strict) {k : κ} {i : Item V}
    {xs : List (Item V)} (h : i.1 ≠ k) : F.Drains (W.read k) (i :: xs) := by
  intro b hb
  refine S k b fun v rest hv => ?_
  rw [hb] at hv
  injection hv with hi _
  exact h (by rw [hi])

end Fifo

end Wire

/-! ## §7. A wire that keeps the promise. -/

/-- The list of items itself as the buffer.  A read of the wrong kind returns
the default value of its kind and leaves nothing that could still be read. -/
def listWire [DecidableEq κ] (dflt : (k : κ) → V k) : Wire κ V where
  Buf := List (Item V)
  empty := []
  write k v b := some (b ++ [⟨k, v⟩])
  read k
    | [] => (dflt k, [])
    | i :: rest => if h : i.1 = k then (h ▸ i.2, rest) else (dflt k, [])

section listWire

variable [DecidableEq κ] (dflt : (k : κ) → V k)

theorem listWire_read_head (k : κ) (v : V k) (rest : List (Item V)) :
    (listWire dflt).read k (⟨k, v⟩ :: rest : List (Item V)) = (v, rest) := by
  show (if h : k = k then ((h ▸ v : V k), rest) else (dflt k, [])) = _
  rw [dif_pos rfl]

/-- **The list wire is FIFO.** -/
def listFifo : (listWire dflt).Fifo where
  unread b := b
  unread_empty := rfl
  unread_write h := by
    injection h with h
    exact h.symm
  read_head {k v b rest} h := by
    have h' : b = (⟨k, v⟩ :: rest : List (Item V)) := h
    subst h'
    rw [listWire_read_head]
    exact ⟨rfl, rfl⟩

theorem listFifo_strict : (listFifo dflt).Strict := by
  intro k b h
  cases b with
  | nil => rfl
  | cons i rest =>
      have hne : i.1 ≠ k := by
        intro he
        subst he
        exact h i.2 rest rfl
      show (if h : i.1 = k then ((h ▸ i.2 : V k), rest) else (dflt k, [])).2 = []
      rw [dif_neg hne]

end listWire

end Pasteboard.Lib
