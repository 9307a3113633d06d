import SqlCsvServer.Foundation.Bytes

/-!
# Reading a file with a fixed line buffer

`fgets` reads up to the next line feed, the end of the file, or as many
bytes as its buffer has room for, whichever comes first.  This module describes
the whole sequence of reads over a file: how reads cut the bytes, where each
read starts, and what changes when bytes are appended.
-/

namespace SqlCsvServer
namespace Foundation

def takeLine : Nat -> Bytes -> Bytes × Bytes
  | 0, s => ([], s)
  | _ + 1, [] => ([], [])
  | n + 1, b :: s =>
      if b = Byte.lineFeed then ([b], s)
      else (b :: (takeLine n s).1, (takeLine n s).2)

def fgets (size : Nat) : Bytes -> Option (Bytes × Bytes)
  | [] => none
  | b :: s => some (takeLine (size - 1) (b :: s))

def fgetsLoop (size : Nat) : Nat -> Bytes -> List Bytes
  | 0, _ => []
  | fuel + 1, s =>
      match fgets size s with
      | none => []
      | some (line, rest) => line :: fgetsLoop size fuel rest

def readLines (size : Nat) (s : Bytes) : List Bytes :=
  fgetsLoop size s.length s

def withOffsets : Nat -> List Bytes -> List (Nat × Bytes)
  | _, [] => []
  | offset, line :: lines =>
      (offset, line) :: withOffsets (offset + line.length) lines

/-!
## One read
-/

theorem takeLine_join (n : Nat) (s : Bytes) :
    (takeLine n s).1 ++ (takeLine n s).2 = s := by
  induction n generalizing s with
  | zero => rfl
  | succ n ih =>
      cases s with
      | nil => rfl
      | cons b s =>
          by_cases hb : b = Byte.lineFeed
          · simp [takeLine, hb]
          · simp [takeLine, hb, ih s]

theorem takeLine_length_le (n : Nat) (s : Bytes) :
    (takeLine n s).1.length ≤ n := by
  induction n generalizing s with
  | zero => simp [takeLine]
  | succ n ih =>
      cases s with
      | nil => simp [takeLine]
      | cons b s =>
          by_cases hb : b = Byte.lineFeed
          · simp [takeLine, hb]
          · simpa [takeLine, hb] using ih s

def Complete (n : Nat) (line : Bytes) : Prop :=
  line.length = n ∨ Byte.lineFeed ∈ line

theorem takeLine_append_of_complete {n : Nat} {s : Bytes} (t : Bytes)
    (h : Complete n (takeLine n s).1) :
    takeLine n (s ++ t) = ((takeLine n s).1, (takeLine n s).2 ++ t) := by
  induction n generalizing s with
  | zero => rfl
  | succ n ih =>
      cases s with
      | nil => rcases h with h | h <;> simp [takeLine] at h
      | cons b s =>
          by_cases hb : b = Byte.lineFeed
          · simp [takeLine, hb]
          · have hrest : Complete n (takeLine n s).1 := by
              rcases h with h | h
              · exact Or.inl (by simpa [takeLine, hb] using h)
              · refine Or.inr ?_
                simp only [takeLine, hb, if_false] at h
                rcases List.mem_cons.mp h with h | h
                · exact absurd h.symm hb
                · exact h
            simp [takeLine, hb, ih hrest]

theorem takeLine_of_not_complete {n : Nat} {s : Bytes}
    (h : ¬ Complete n (takeLine n s).1) : takeLine n s = (s, []) := by
  induction n generalizing s with
  | zero => exact absurd (Or.inl rfl) h
  | succ n ih =>
      cases s with
      | nil => rfl
      | cons b s =>
          by_cases hb : b = Byte.lineFeed
          · exact absurd (Or.inr (by simp [takeLine, hb])) h
          · have hrest : ¬ Complete n (takeLine n s).1 := by
              intro hcomplete
              apply h
              rcases hcomplete with hlength | hmem
              · exact Or.inl (by simp [takeLine, hb, hlength])
              · exact Or.inr (by simp [takeLine, hb, hmem])
            simp [takeLine, hb, ih hrest]

theorem takeLine_of_fits {n : Nat} {s : Bytes} (hfree : Byte.lineFeed ∉ s)
    (hfits : s.length ≤ n) : takeLine n s = (s, []) := by
  induction n generalizing s with
  | zero =>
      have hs : s = [] := List.length_eq_zero_iff.mp (Nat.le_zero.mp hfits)
      rw [hs]
      rfl
  | succ n ih =>
      cases s with
      | nil => rfl
      | cons b s =>
          have hb : b ≠ Byte.lineFeed := fun hb => hfree (by simp [hb])
          have hrest := ih (s := s) (fun h => hfree (List.mem_cons_of_mem _ h))
            (by simpa using hfits)
          simp [takeLine, hb, hrest]

theorem takeLine_of_lineFeed_free {n : Nat} {s : Bytes}
    (hfree : Byte.lineFeed ∉ s) : takeLine n s = (s.take n, s.drop n) := by
  induction n generalizing s with
  | zero => rfl
  | succ n ih =>
      cases s with
      | nil => rfl
      | cons b s =>
          have hb : b ≠ Byte.lineFeed := fun hb => hfree (by simp [hb])
          have hrest := ih (s := s) (fun h => hfree (List.mem_cons_of_mem _ h))
          simp [takeLine, hb, hrest]

theorem takeLine_append_lineFeed {n : Nat} {s : Bytes}
    (hfree : Byte.lineFeed ∉ s) (hroom : s.length < n) :
    takeLine n (s ++ [Byte.lineFeed]) = (s ++ [Byte.lineFeed], []) := by
  induction n generalizing s with
  | zero => exact absurd hroom (Nat.not_lt_zero _)
  | succ n ih =>
      cases s with
      | nil => simp [takeLine]
      | cons b s =>
          have hb : b ≠ Byte.lineFeed := fun hb => hfree (by simp [hb])
          have hrest := ih (s := s) (fun h => hfree (List.mem_cons_of_mem _ h))
            (by simpa using hroom)
          simp [takeLine, hb, hrest]

/-!
## The sequence of reads
-/

section Reads

variable {size : Nat}

theorem fgets_ne_nil (hsize : 2 ≤ size) {s line rest : Bytes}
    (h : fgets size s = some (line, rest)) : line ≠ [] := by
  cases s with
  | nil => simp [fgets] at h
  | cons b s =>
      simp only [fgets, Option.some.injEq] at h
      have hroom : size - 1 = (size - 2) + 1 := by omega
      rw [hroom] at h
      intro hnil
      by_cases hb : b = Byte.lineFeed
      · simp [takeLine, hb] at h
        simp [hnil] at h
      · simp [takeLine, hb] at h
        simp [hnil] at h

theorem fgets_join {s line rest : Bytes}
    (h : fgets size s = some (line, rest)) : line ++ rest = s := by
  cases s with
  | nil => simp [fgets] at h
  | cons b s =>
      simp only [fgets, Option.some.injEq] at h
      have hjoin := takeLine_join (size - 1) (b :: s)
      rw [h] at hjoin
      exact hjoin

theorem fgets_eq_takeLine (size : Nat) {s : Bytes} (hs : s ≠ []) :
    fgets size s = some (takeLine (size - 1) s) := by
  cases s with
  | nil => exact absurd rfl hs
  | cons b s => rfl

theorem fgets_rest_lt (hsize : 2 ≤ size) {s line rest : Bytes}
    (h : fgets size s = some (line, rest)) : rest.length < s.length := by
  have hline := List.length_pos_of_ne_nil (fgets_ne_nil hsize h)
  have hjoin := congrArg List.length (fgets_join h)
  simp only [List.length_append] at hjoin
  omega

theorem fgetsLoop_enough (hsize : 2 ≤ size) :
    forall (fuel : Nat) (s : Bytes), s.length ≤ fuel ->
      fgetsLoop size fuel s = readLines size s := by
  intro fuel
  induction fuel using Nat.strongRecOn with
  | ind fuel ih =>
      intro s hfuel
      cases hread : fgets size s with
      | none =>
          cases s with
          | nil => cases fuel <;> rfl
          | cons b s => simp [fgets] at hread
      | some read =>
          rcases read with ⟨line, rest⟩
          have hlt := fgets_rest_lt hsize hread
          have hpos : 0 < s.length := Nat.lt_of_le_of_lt (Nat.zero_le _) hlt
          rcases Nat.exists_eq_succ_of_ne_zero (by omega : fuel ≠ 0) with
            ⟨f, rfl⟩
          rcases Nat.exists_eq_succ_of_ne_zero (by omega : s.length ≠ 0) with
            ⟨n, hn⟩
          have hleft := ih f (Nat.lt_succ_self f) rest (by omega)
          have hright : fgetsLoop size n rest = readLines size rest := by
            rcases Nat.lt_or_ge n (f + 1) with hnf | hnf
            · exact ih n hnf rest (by omega)
            · omega
          unfold readLines
          rw [hn]
          simp only [fgetsLoop, hread]
          rw [hleft, hright]

@[simp] theorem readLines_nil : readLines size [] = [] := rfl

theorem readLines_eq_cons (hsize : 2 ≤ size) {s line rest : Bytes}
    (h : fgets size s = some (line, rest)) :
    readLines size s = line :: readLines size rest := by
  have hlt := fgets_rest_lt hsize h
  rcases Nat.exists_eq_succ_of_ne_zero (by omega : s.length ≠ 0) with ⟨n, hn⟩
  unfold readLines
  rw [hn]
  simp only [fgetsLoop, h]
  rw [fgetsLoop_enough hsize n rest (by omega)]
  rfl

theorem readLines_induction (hsize : 2 ≤ size) {motive : Bytes -> Prop}
    (nil : motive [])
    (read : forall s line rest, fgets size s = some (line, rest) ->
      motive rest -> motive s) :
    forall s, motive s := by
  intro s
  induction hn : s.length using Nat.strongRecOn generalizing s with
  | ind n ih =>
      cases hread : fgets size s with
      | none =>
          cases s with
          | nil => exact nil
          | cons b s => simp [fgets] at hread
      | some r =>
          rcases r with ⟨line, rest⟩
          have hlt := fgets_rest_lt hsize hread
          exact read s line rest hread (ih rest.length (by omega) rest rfl)

theorem readLines_flatten (hsize : 2 ≤ size) (s : Bytes) :
    (readLines size s).flatten = s := by
  induction s using readLines_induction hsize with
  | nil => rfl
  | read s line rest hread ih =>
      rw [readLines_eq_cons hsize hread, List.flatten_cons, ih,
        fgets_join hread]

theorem fgets_drop_of_mem_withOffsets (hsize : 2 ≤ size) (s : Bytes) :
    forall (start offset : Nat) (line : Bytes),
      (offset, line) ∈ withOffsets start (readLines size s) ->
        start ≤ offset ∧
          exists rest, fgets size (s.drop (offset - start)) = some (line, rest) := by
  induction s using readLines_induction hsize with
  | nil =>
      intro start offset line h
      simp [withOffsets] at h
  | read s first rest hread ih =>
      intro start offset line h
      rw [readLines_eq_cons hsize hread] at h
      rcases List.mem_cons.mp h with h | h
      · rcases Prod.mk.inj h with ⟨rfl, rfl⟩
        refine ⟨Nat.le_refl _, rest, ?_⟩
        rw [Nat.sub_self, List.drop_zero]
        exact hread
      · rcases ih (start + first.length) offset line h with
          ⟨hle, after, hafter⟩
        refine ⟨by omega, after, ?_⟩
        have hdrop :
            s.drop (offset - start) =
              rest.drop (offset - (start + first.length)) := by
          conv_lhs => rw [← fgets_join hread]
          have hsplit :
              offset - start =
                first.length + (offset - (start + first.length)) := by
            omega
          rw [hsplit, List.drop_append]
          simp
        rw [hdrop]
        exact hafter

theorem withOffsets_append (start : Nat) (a b : List Bytes) :
    withOffsets start (a ++ b) =
      withOffsets start a ++ withOffsets (start + a.flatten.length) b := by
  induction a generalizing start with
  | nil => simp [withOffsets]
  | cons line a ih =>
      simp [withOffsets, ih, Nat.add_assoc]

/-!
## Appending to a file
-/

theorem readLines_append_of_lineFeed (hsize : 2 ≤ size) (t : Bytes) :
    forall (s : Bytes), (forall h : s ≠ [], s.getLast h = Byte.lineFeed) ->
      readLines size (s ++ t) = readLines size s ++ readLines size t := by
  intro s
  induction s using readLines_induction hsize with
  | nil =>
      intro _
      rfl
  | read s line rest hread ih =>
      intro hlast
      have hs : s ≠ [] := by
        intro hnil
        rw [hnil] at hread
        simp [fgets] at hread
      have htake : takeLine (size - 1) s = (line, rest) := by
        rw [fgets_eq_takeLine _ hs] at hread
        exact Option.some.inj hread
      have hcomplete : Complete (size - 1) (takeLine (size - 1) s).1 := by
        by_contra hshort
        have hall := takeLine_of_not_complete hshort
        apply hshort
        refine Or.inr ?_
        rw [hall]
        exact (hlast hs) ▸ List.getLast_mem hs
      have happend : fgets size (s ++ t) = some (line, rest ++ t) := by
        rw [fgets_eq_takeLine _ (by simp [hs]),
          takeLine_append_of_complete t hcomplete, htake]
      have hrest : forall h : rest ≠ [], rest.getLast h = Byte.lineFeed := by
        intro h
        have hlastJoin := hlast hs
        have hjoin := fgets_join hread
        simp only [← hjoin] at hlastJoin
        rwa [List.getLast_append_of_ne_nil _ h] at hlastJoin
      rw [readLines_eq_cons hsize happend, readLines_eq_cons hsize hread,
        ih hrest]
      rfl

/--
A line feed after the last byte either lengthens the last read or, when that
read had filled the buffer, is a read of its own.
-/
theorem readLines_append_lineFeed (hsize : 2 ≤ size) :
    forall (s : Bytes),
      readLines size (s ++ [Byte.lineFeed]) =
          readLines size s ++ [[Byte.lineFeed]] ∨
        exists (front : List Bytes) (last : Bytes),
          readLines size s = front ++ [last] ∧
            readLines size (s ++ [Byte.lineFeed]) =
              front ++ [last ++ [Byte.lineFeed]] := by
  intro s
  induction s using readLines_induction hsize with
  | nil =>
      refine Or.inl ?_
      have hread :
          fgets size ([] ++ [Byte.lineFeed]) = some ([Byte.lineFeed], []) := by
        have hroom : size - 1 = (size - 2) + 1 := by omega
        simp [fgets, hroom, takeLine]
      rw [readLines_eq_cons hsize hread]
      rfl
  | read s line rest hread ih =>
      have hs : s ≠ [] := by
        intro hnil
        rw [hnil] at hread
        simp [fgets] at hread
      have htake : takeLine (size - 1) s = (line, rest) := by
        rw [fgets_eq_takeLine _ hs] at hread
        exact Option.some.inj hread
      by_cases hcomplete : Complete (size - 1) (takeLine (size - 1) s).1
      · have happend :
            fgets size (s ++ [Byte.lineFeed]) =
              some (line, rest ++ [Byte.lineFeed]) := by
          rw [fgets_eq_takeLine _ (by simp),
            takeLine_append_of_complete _ hcomplete, htake]
        rw [readLines_eq_cons hsize happend, readLines_eq_cons hsize hread]
        rcases ih with ih | ⟨front, last, hlines, hafter⟩
        · exact Or.inl (by rw [ih]; rfl)
        · refine Or.inr ⟨line :: front, last, ?_, ?_⟩
          · rw [hlines]
            rfl
          · rw [hafter]
            rfl
      · -- the last read met the end of the file with room to spare
        have hall := takeLine_of_not_complete hcomplete
        have hfree : Byte.lineFeed ∉ s := by
          intro hmem
          exact hcomplete (Or.inr (by rw [hall]; exact hmem))
        have hroom : s.length < size - 1 := by
          have hle := takeLine_length_le (size - 1) s
          rw [hall] at hle
          refine Nat.lt_of_le_of_ne hle ?_
          intro heq
          exact hcomplete (Or.inl (by rw [hall]; exact heq))
        have happend :
            fgets size (s ++ [Byte.lineFeed]) =
              some (s ++ [Byte.lineFeed], []) := by
          rw [fgets_eq_takeLine _ (by simp),
            takeLine_append_lineFeed hfree hroom]
        rw [hall] at htake
        rcases Prod.mk.inj htake with ⟨rfl, rfl⟩
        refine Or.inr ⟨[], s, ?_, ?_⟩
        · rw [readLines_eq_cons hsize hread]
          rfl
        · rw [readLines_eq_cons hsize happend]
          rfl

theorem readLines_of_fits (hsize : 2 ≤ size) {s : Bytes} (hs : s ≠ [])
    (hfree : Byte.lineFeed ∉ s) (hfits : s.length ≤ size - 1) :
    readLines size s = [s] := by
  have hread : fgets size s = some (s, []) := by
    rw [fgets_eq_takeLine _ hs, takeLine_of_fits hfree hfits]
  rw [readLines_eq_cons hsize hread]
  rfl

theorem readLines_of_long (hsize : 2 ≤ size) {s : Bytes}
    (hfree : Byte.lineFeed ∉ s) (hlong : size - 1 < s.length) :
    readLines size s =
      s.take (size - 1) :: readLines size (s.drop (size - 1)) := by
  have hs : s ≠ [] := by
    intro hnil
    simp [hnil] at hlong
  have hread : fgets size s = some (s.take (size - 1), s.drop (size - 1)) := by
    rw [fgets_eq_takeLine _ hs, takeLine_of_lineFeed_free hfree]
  exact readLines_eq_cons hsize hread

end Reads

end Foundation
end SqlCsvServer
