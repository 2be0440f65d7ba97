/-
A register dump tells all that it shows.

What the dump has between its blanks and line ends are words: labels, each with the number it is
for, and behind the last label the addresses of the stack, as many as there are.  No label and no
number has a blank in it, so the words of a dump are known however its fields are filled up
(`words_chars`), and they can be read from left to right.  `read?` does that, and undoes `text`
(`read?_text`).  So two dumps with one text are the same dump, and two processors with one dump
differ in nothing but their mode.
-/
import Mathlib.Data.List.GetD
import ChipEight.Cpu
import ChipEight.Proofs.Hexadecimal

namespace ChipEight

namespace Text

/-! ### Words -/

/-- Characters that words end at. -/
def IsBreak (c : Char) : Prop := c = ' ' ∨ c = '\n'

instance : DecidablePred IsBreak := fun _ => inferInstanceAs (Decidable (_ ∨ _))

/-- The words of a text: what stands between its breaks, if there is anything. -/
def words (text : List Char) : List (List Char) :=
  (text.splitOnP fun c => decide (IsBreak c)).filter fun word => word ≠ []

/-- A text that is one word. -/
def IsWord (word : List Char) : Prop := word ≠ [] ∧ ∀ c ∈ word, ¬ IsBreak c

theorem isBreak_blank : IsBreak ' ' := Or.inl rfl

theorem isBreak_lineEnd : IsBreak '\n' := Or.inr rfl

variable {word : List Char} {c : Char}

/-- The words before a break and those behind it have nothing to do with each other. -/
theorem words_append_break (hc : IsBreak c) (before after : List Char) :
    words (before ++ c :: after) = words before ++ words after := by
  rw [words, List.splitOnP_append_cons before after (by simpa using hc), List.filter_append]
  rfl

theorem words_nil : words [] = [] := by
  simp [words]

theorem words_cons_break (hc : IsBreak c) (after : List Char) :
    words (c :: after) = words after := by
  have h := words_append_break hc [] after
  rwa [words_nil, List.nil_append, List.nil_append] at h

theorem words_of_isWord (h : IsWord word) : words word = [word] := by
  rw [words, List.splitOnP_eq_singleton (by simpa using h.2)]
  simp [h.1]

namespace Hex

theorem not_isBreak_of_mem_alphabet {c : Char} (h : c ∈ alphabet) : ¬ IsBreak c := by
  revert c
  simp [alphabet, IsBreak]

theorem isWord_digits (n : Nat) : IsWord (digits n) := by
  refine ⟨digits_ne_nil n, ?_⟩
  intro c hc
  exact not_isBreak_of_mem_alphabet (mem_alphabet_of_mem_digits hc)

theorem isWord_signed (n : Int) : IsWord (signed n) := by
  refine ⟨signed_ne_nil n, ?_⟩
  intro c hc
  rcases mem_of_mem_signed hc with rfl | hmem
  · decide
  · exact not_isBreak_of_mem_alphabet hmem

/-- The blanks in front belong to no word. -/
theorem words_blankPadded (width : Nat) (n : Int) : words (blankPadded width n) = [signed n] := by
  rw [blankPadded, List.leftpad]
  induction width - (signed n).length with
  | zero => exact words_of_isWord (isWord_signed n)
  | succ k ih =>
      rw [List.replicate_succ, List.cons_append, words_cons_break isBreak_blank]
      exact ih

end Hex

end Text

open Text

namespace Dump

/-! ### What is written -/

/-- A number behind its label. -/
def field (label : List Char) (width : Nat) (n : Int) : List Char :=
  label ++ ' ' :: Hex.blankPadded width n

def registerLabel (x : Fin 16) : List Char := 'V' :: Hex.digits x ++ [':']

def stackLabel : List Char := "STACK:".toList

/-- The numbers of a dump that have labels of their own, in order. -/
def fields (d : Dump) : List (List Char × Int) :=
  [("PC:".toList, d.pc), ("OP:".toList, d.operand)] ++
    (List.finRange 16).map (fun x => (registerLabel x, d.v.get x)) ++
    [("I:".toList, d.index), ("DT:".toList, d.delay), ("ST:".toList, d.sound)]

/-- A label and its number, as words. -/
def entryWords (entry : List Char × Int) : List (List Char) := [entry.1, Hex.signed entry.2]

variable {label : List Char}

theorem words_field (hlabel : IsWord label) (width : Nat) (n : Int) :
    words (field label width n) = entryWords (label, n) := by
  rw [field, words_append_break isBreak_blank, words_of_isWord hlabel, Hex.words_blankPadded]
  rfl

theorem isWord_registerLabel (x : Fin 16) : IsWord (registerLabel x) := by
  refine ⟨by simp [registerLabel], ?_⟩
  intro c hc
  have hcases : c = 'V' ∨ c ∈ Hex.digits x ∨ c = ':' := by simpa [registerLabel] using hc
  rcases hcases with rfl | hdigit | rfl
  · decide
  · exact (Hex.isWord_digits x).2 c hdigit
  · decide

theorem registerLine_eq (x : Fin 16) (value : Int) :
    registerLine x value = field (registerLabel x) 2 value ++ ['\n'] := by
  simp [registerLine, registerLabel, field]

theorem words_registerLines (v : Vector Int 16) (rest : List Char) :
    words (registerLines v ++ rest) =
      ((List.finRange 16).map fun x => (registerLabel x, v.get x)).flatMap entryWords ++
        words rest := by
  rw [registerLines]
  induction List.finRange 16 with
  | nil => rfl
  | cons x registers ih =>
      rw [List.flatMap_cons, registerLine_eq, List.append_assoc, List.append_assoc,
        List.singleton_append, words_append_break isBreak_lineEnd,
        words_field (isWord_registerLabel x), ih]
      simp

theorem words_stackChars (stack : List Int) :
    words (stackChars stack) = stack.map Hex.signed := by
  rw [stackChars]
  induction stack with
  | nil => exact words_nil
  | cons address rest ih =>
      cases rest with
      | nil => simp [Hex.words_blankPadded]
      | cons next rest =>
          rw [List.map_cons, List.map_cons, List.intercalate_cons_cons, List.append_assoc,
            List.singleton_append, words_append_break isBreak_blank, Hex.words_blankPadded,
            ← List.map_cons, ih]
          rfl

/-- The labels that belong to no register are words too. -/
theorem isWord_labels :
    IsWord "PC:".toList ∧ IsWord "OP:".toList ∧ IsWord "I:".toList ∧ IsWord "DT:".toList ∧
      IsWord "ST:".toList ∧ IsWord stackLabel := by
  unfold stackLabel
  simp [IsWord, IsBreak]

/-- The words of a dump are its labels and numbers, one after the other. -/
theorem words_chars (d : Dump) :
    words d.chars = d.fields.flatMap entryWords ++ stackLabel :: d.stack.map Hex.signed := by
  have hchars : d.chars =
      field "PC:".toList 4 d.pc ++ ' ' :: ' ' :: (field "OP:".toList 4 d.operand ++ '\n' ::
        (registerLines d.v ++ (field "I:".toList 4 d.index ++ '\n' ::
          (field "DT:".toList 2 d.delay ++ ' ' :: ' ' :: (field "ST:".toList 2 d.sound ++ '\n' ::
            (stackLabel ++ ' ' :: stackChars d.stack)))))) := by
    unfold chars field stackLabel
    simp
  obtain ⟨hpc, hoperand, hindex, hdelay, hsound, hstack⟩ := isWord_labels
  -- the text is cut at the breaks behind each number and label, from left to right
  rw [hchars, words_append_break isBreak_blank, words_cons_break isBreak_blank,
    words_append_break isBreak_lineEnd, words_registerLines, words_append_break isBreak_lineEnd,
    words_append_break isBreak_blank, words_cons_break isBreak_blank,
    words_append_break isBreak_lineEnd, words_append_break isBreak_blank, words_stackChars,
    words_field hpc, words_field hoperand, words_field hindex,
    words_field hdelay, words_field hsound, words_of_isWord hstack]
  simp [fields]

/-! ### Reading -/

/-- Takes the numbers from behind some labels, which have to come in this order.  What is left of
the words comes with them. -/
def labelled? : List (List Char) → List (List Char) → Option (List Int × List (List Char))
  | [], rest => some ([], rest)
  | label :: labels, word :: number :: rest =>
    if word = label then do
      let n ← Hex.integer? number
      let (numbers, rest) ← labelled? labels rest
      return (n :: numbers, rest)
    else none
  | _ :: _, _ => none

/-- The labels of a dump, in order. -/
def labels : List (List Char) :=
  ["PC:".toList, "OP:".toList] ++ (List.finRange 16).map registerLabel ++
    ["I:".toList, "DT:".toList, "ST:".toList]

/-- The dump with some numbers behind its labels, and the addresses of its stack. -/
def ofNumbers? (numbers stack : List Int) : Option Dump :=
  match numbers with
  | pc :: operand :: rest =>
    match rest.drop 16 with
    | [index, delay, sound] =>
      some
        { pc := pc
          operand := operand
          v := Vector.ofFn fun x => rest.getD x 0
          index := index
          delay := delay
          sound := sound
          stack := stack }
    | _ => none
  | _ => none

/-- The dump that a text shows. -/
def read? (text : String) : Option Dump := do
  let (numbers, rest) ← labelled? labels (words text.toList)
  match rest with
  | [] => none
  | label :: stack =>
    if label = stackLabel then ofNumbers? numbers (← stack.mapM Hex.integer?) else none

theorem labelled?_entryWords (entries : List (List Char × Int)) (rest : List (List Char)) :
    labelled? (entries.map Prod.fst) (entries.flatMap entryWords ++ rest) =
      some (entries.map Prod.snd, rest) := by
  induction entries with
  | nil => rfl
  | cons entry entries ih =>
      rw [List.map_cons, List.flatMap_cons, List.append_assoc]
      simp [entryWords, labelled?, Hex.integer?_signed, ih]

theorem mapM_signed (numbers : List Int) :
    (numbers.map Hex.signed).mapM Hex.integer? = some numbers := by
  induction numbers with
  | nil => rfl
  | cons n rest ih => simp [Hex.integer?_signed, ih]

theorem fields_labels (d : Dump) : d.fields.map Prod.fst = labels := by
  simp [fields, labels]

theorem fields_numbers (d : Dump) :
    d.fields.map Prod.snd =
      d.pc :: d.operand :: (d.v.toList ++ [d.index, d.delay, d.sound]) := by
  have hv : (List.finRange 16).map d.v.get = d.v.toList := by
    apply List.ext_getElem
    · simp
    · intro i hi hi'
      simp [Vector.get]
  simp [fields, ← hv]

theorem ofNumbers?_fields (d : Dump) : ofNumbers? (d.fields.map Prod.snd) d.stack = some d := by
  have hdrop : (d.v.toList ++ [d.index, d.delay, d.sound]).drop 16 =
      [d.index, d.delay, d.sound] :=
    List.drop_left' d.v.length_toList
  have hv : (Vector.ofFn fun x : Fin 16 =>
      (d.v.toList ++ [d.index, d.delay, d.sound]).getD x 0) = d.v := by
    ext i hi
    have hlt : i < d.v.toList.length := by rwa [d.v.length_toList]
    rw [Vector.getElem_ofFn, List.getD_append _ _ _ _ hlt, List.getD_eq_getElem _ _ hlt,
      Vector.getElem_toList]
  simp only [fields_numbers, ofNumbers?, hdrop, hv]

/-- A dump is read back from its text. -/
theorem read?_text (d : Dump) : read? d.text = some d := by
  rw [read?, text, String.toList_ofList, words_chars, ← fields_labels d, labelled?_entryWords]
  show (if stackLabel = stackLabel then
    ((d.stack.map Hex.signed).mapM Hex.integer?).bind (ofNumbers? (d.fields.map Prod.snd))
    else none) = some d
  rw [if_pos rfl, mapM_signed, Option.bind_some, ofNumbers?_fields]

theorem text_injective : Function.Injective text := by
  intro d e htext
  have hread : some d = some e := by rw [← read?_text d, htext, read?_text e]
  exact Option.some.inj hread

end Dump

/-- A dump shows all of a processor but its mode. -/
theorem Cpu.dump_eq_iff {c other : Cpu} :
    c.dump = other.dump ↔
      c.pc = other.pc ∧ c.operand = other.operand ∧ c.v = other.v ∧ c.index = other.index ∧
        c.delay = other.delay ∧ c.sound = other.sound ∧ c.stack = other.stack := by
  have hv : (c.v.map fun value => (value.toNat : Int)) =
      (other.v.map fun value => (value.toNat : Int)) ↔ c.v = other.v := by
    refine Vector.map_inj_right ?_
    intro value value' heq
    exact UInt8.toNat_inj.1 (Int.ofNat_inj.1 heq)
  simp [Cpu.dump, hv]

/-- **A dump loses nothing of what it shows.**  It is read back from its text, whatever numbers it
has and however many addresses; so dumps with one text agree in every field, and so do
processors whose dumps have one text. -/
theorem Dump.text_tells_all (d e : Dump) (c other : Cpu) :
    Dump.read? d.text = some d ∧
      (d.text = e.text ↔
        d.pc = e.pc ∧ d.operand = e.operand ∧ d.v = e.v ∧ d.index = e.index ∧
          d.delay = e.delay ∧ d.sound = e.sound ∧ d.stack = e.stack) ∧
      (c.dump.text = other.dump.text ↔
        c.pc = other.pc ∧ c.operand = other.operand ∧ c.v = other.v ∧ c.index = other.index ∧
          c.delay = other.delay ∧ c.sound = other.sound ∧ c.stack = other.stack) := by
  refine ⟨read?_text d, ?_, ?_⟩
  · rw [text_injective.eq_iff]
    cases d
    cases e
    simp
  · rw [text_injective.eq_iff, Cpu.dump_eq_iff]

end ChipEight
