import ChipEight.Assembly

/-! # Reading assembly lines

`Line.text` spells a line of assembly, and `Line.ofText?` reads it again: the mnemonic ends at the
first blank, and commas stand between the operands.  An operand tells by its first characters what
it is.  A `V` begins a register, and `0x` a number whose digits are as many as its kind has: two
of a byte, three of an address, four of a word.  Everything else is looked up among the few
spellings that are left.

Reading undoes spelling (`ofText?_text`), as long as the addresses of a line have three digits
(`Line.Fits`).  So two such lines that read alike are the same (`text_inj`).
-/
namespace ChipEight

/-! ## Digits -/

namespace Text

/-- The digits in base sixteen. -/
def hexAlphabet : List Char := (List.range 16).map fun d => d.digitChar.toUpper

/-- The value of a digit in base sixteen. -/
def hexValue? (c : Char) : Option Nat := hexAlphabet.findIdx? (· == c)

/-- The number that some digits write after those of `n`. -/
def readHexAfter (n : Nat) (cs : List Char) : Option Nat :=
  cs.foldlM (fun n c => (hexValue? c).map (16 * n + ·)) n

/-- The number that digits in base sixteen write, most significant first. -/
def readHex? (cs : List Char) : Option Nat := readHexAfter 0 cs

theorem hexValue?_digit : ∀ d < 16, hexValue? d.digitChar.toUpper = some d := by decide

theorem readHexAfter_cons {c : Char} {d : Nat} (h : hexValue? c = some d) (n : Nat)
    (cs : List Char) : readHexAfter n (c :: cs) = readHexAfter (16 * n + d) cs := by
  simp [readHexAfter, h]

theorem readHexAfter_append {n m : Nat} {cs : List Char} (h : readHexAfter n cs = some m)
    (ds : List Char) : readHexAfter n (cs ++ ds) = readHexAfter m ds := by
  rw [readHexAfter] at h
  rw [readHexAfter, List.foldlM_append, h]
  rfl

/-- The digits of a number are those of its sixteenth and one more. -/
theorem hexDigits_of_le {n : Nat} (h : 16 ≤ n) :
    hexDigits n = hexDigits (n / 16) ++ [(n % 16).digitChar.toUpper] := by
  rw [hexDigits, Nat.toDigits_of_base_le (by decide) h, List.map_append]
  rfl

theorem hexDigits_of_lt {n : Nat} (h : n < 16) : hexDigits n = [n.digitChar.toUpper] := by
  rw [hexDigits, Nat.toDigits_of_lt_base h]
  rfl

theorem readHex?_hexDigits (n : Nat) : readHex? (hexDigits n) = some n := by
  induction n using Nat.strongRecOn with
  | ind n ih =>
    by_cases h : n < 16
    · rw [hexDigits_of_lt h, readHex?, readHexAfter_cons (hexValue?_digit n h)]
      simp [readHexAfter]
    · have hle : 16 ≤ n := Nat.le_of_not_lt h
      have hrest := ih (n / 16) (by omega)
      rw [hexDigits_of_le hle, readHex?, readHexAfter_append hrest,
        readHexAfter_cons (hexValue?_digit _ (Nat.mod_lt n (by decide)))]
      simp [readHexAfter, Nat.div_add_mod]

/-- Zeros in front do not count. -/
theorem readHex?_replicate_append (k : Nat) (cs : List Char) :
    readHex? (List.replicate k '0' ++ cs) = readHex? cs := by
  induction k with
  | zero => rfl
  | succ k ih =>
    have hzero : hexValue? '0' = some 0 := by decide
    rw [List.replicate_succ, List.cons_append, readHex?, readHexAfter_cons hzero]
    exact ih

theorem toList_hex (width n : Nat) :
    (hex width n).toList =
      List.replicate (width - (hexDigits n).length) '0' ++ hexDigits n := by
  have hsign : ¬(n : Int) < 0 := by omega
  simp [hex, hsign]

theorem readHex?_hex (width n : Nat) : readHex? (hex width n).toList = some n := by
  rw [toList_hex, readHex?_replicate_append, readHex?_hexDigits]

/-- A number that fits takes exactly the width. -/
theorem length_hex {width n : Nat} (hwidth : 0 < width) (h : n < Nat.pow 16 width) :
    (hex width n).toList.length = width := by
  have hdigits : (hexDigits n).length ≤ width := by
    rw [hexDigits, List.length_map]
    exact (Nat.length_toDigits_le_iff (by decide) hwidth).mpr h
  rw [toList_hex, List.length_append, List.length_replicate]
  omega

/-- What reads as a number has no other characters than digits. -/
theorem hexValue?_of_mem {cs : List Char} {n m : Nat} (h : readHexAfter n cs = some m) {c : Char}
    (hc : c ∈ cs) : (hexValue? c).isSome := by
  induction cs generalizing n with
  | nil => cases hc
  | cons c' cs ih =>
    cases hd : hexValue? c' with
    | none => simp [readHexAfter, hd] at h
    | some d =>
      rw [readHexAfter_cons hd] at h
      rcases List.mem_cons.mp hc with rfl | hc
      · rw [hd]
        rfl
      · exact ih h hc

theorem notMem_hex {c : Char} (h : hexValue? c = none) (width n : Nat) :
    c ∉ (hex width n).toList := by
  intro hc
  have hdigit := hexValue?_of_mem (readHex?_hex width n) hc
  rw [h] at hdigit
  cases hdigit

end Text

namespace Assembly

/-! ## Mnemonics and operands -/

/-- The mnemonics, in the order in which they are listed. -/
def Mnemonic.all : List Mnemonic := [
  .cls, .ret, .sys, .jp, .call, .se, .sne, .ld, .add, .or, .and, .xor, .sub, .shr, .subn, .shl,
  .rnd, .drw, .skp, .sknp, .dw]

/-- The mnemonic of a given spelling. -/
def Mnemonic.ofText? (cs : List Char) : Option Mnemonic := all.find? fun m => m.text.toList == cs

theorem Mnemonic.ofText?_text (m : Mnemonic) : ofText? m.text.toList = some m := by
  cases m <;> decide

theorem Mnemonic.blank_notMem_text (m : Mnemonic) : ' ' ∉ m.text.toList := by
  cases m <;> decide

namespace Operand

/-- The operands that are known by their whole spelling. -/
def spelled : List Operand :=
  [.index, .indirect, .delayTimer, .soundTimer, .key, .glyph, .decimal]
    ++ (List.finRange 16).map .rows

/-- The number of so many digits, if a kind of operand has so many. -/
def ofNumber? (digits n : Nat) : Option Operand :=
  match digits with
  | 2 => some (.byte (UInt8.ofNat n))
  | 3 => some (.address (UInt16.ofNat n))
  | 4 => some (.word (UInt16.ofNat n))
  | _ => none

/-- The operand of a given spelling. -/
def ofText? : List Char → Option Operand
  | ['V', d] => (Text.hexValue? d).map fun r => .register (Fin.ofNat 16 r)
  | '0' :: 'x' :: ds => (Text.readHex? ds).bind (ofNumber? ds.length)
  | cs => spelled.find? fun o => o.text.toList == cs

/-- An address of no more than three digits, or any other operand. -/
def Fits : Operand → Prop
  | address a => a.toNat < 4096
  | _ => True

theorem ofText?_number {width n : Nat} (hwidth : 0 < width) (h : n < Nat.pow 16 width) :
    ofText? ("0x" ++ Text.hex width n).toList = ofNumber? width n := by
  rw [String.toList_append]
  show (Text.readHex? (Text.hex width n).toList).bind
    (ofNumber? (Text.hex width n).toList.length) = _
  rw [Text.readHex?_hex, Text.length_hex hwidth h]
  rfl

theorem ofText?_text {o : Operand} (h : o.Fits) : ofText? o.text.toList = some o := by
  cases o with
  | register r =>
    clear h
    revert r
    decide
  | byte b =>
    have hb : b.toNat < Nat.pow 16 2 := b.toNat_lt
    rw [text, ofText?_number (by decide) hb]
    exact congrArg (fun b => some (byte b)) (UInt8.ofNat_toNat)
  | address a =>
    have ha : a.toNat < Nat.pow 16 3 := h
    rw [text, ofText?_number (by decide) ha]
    exact congrArg (fun a => some (address a)) (UInt16.ofNat_toNat)
  | word w =>
    have hw : w.toNat < Nat.pow 16 4 := w.toNat_lt
    rw [text, ofText?_number (by decide) hw]
    exact congrArg (fun w => some (word w)) (UInt16.ofNat_toNat)
  | rows n =>
    clear h
    revert n
    decide
  | _ => decide

theorem mapM_ofText?_text {operands : List Operand} (h : ∀ o ∈ operands, o.Fits) :
    (operands.map fun o => o.text.toList).mapM ofText? = some operands := by
  induction operands with
  | nil => rfl
  | cons o os ih =>
    have ho := ofText?_text (h o (List.mem_cons_self ..))
    have hos := ih fun p hp => h p (List.mem_cons_of_mem o hp)
    rw [List.map_cons, List.mapM_cons, ho, hos]
    rfl

/-- No operand has a comma in its spelling. -/
theorem comma_notMem_text (o : Operand) : ',' ∉ o.text.toList := by
  have hnumber (width n : Nat) : ',' ∉ ("0x" ++ Text.hex width n).toList := by
    rw [String.toList_append, List.mem_append, not_or]
    exact ⟨by decide, Text.notMem_hex (by decide) width n⟩
  cases o with
  | register r =>
    revert r
    decide
  | byte b => exact hnumber 2 b.toNat
  | address a => exact hnumber 3 a.toNat
  | word w => exact hnumber 4 w.toNat
  | rows n =>
    revert n
    decide
  | _ => decide

end Operand

/-! ## Lines -/

namespace Line

/-- A line whose addresses have no more than three digits. -/
def Fits (l : Line) : Prop := ∀ o ∈ l.operands, o.Fits

/-- What follows the mnemonic: an operand with a blank in front of it, and so on after every
comma. -/
def tail (operands : List Operand) : List Char :=
  [','].intercalate (operands.map fun o => ' ' :: o.text.toList)

/-- The operands that follow a mnemonic. -/
def operandsOf? (cs : List Char) : Option (List Operand) :=
  if cs = [] then some [] else ((cs.splitOn ',').map (·.drop 1)).mapM Operand.ofText?

/-- The line of a given spelling. -/
def ofText? (s : String) : Option Line := do
  let m ← Mnemonic.ofText? (s.toList.takeWhile (· != ' '))
  let operands ← operandsOf? (s.toList.dropWhile (· != ' '))
  return ⟨m, operands⟩

/-- Separators of a comma and a blank can be read as commas between pieces that begin with a
blank. -/
theorem cons_intercalate {pieces : List (List Char)} (h : pieces ≠ []) :
    ' ' :: [',', ' '].intercalate pieces = [','].intercalate (pieces.map (' ' :: ·)) := by
  induction pieces with
  | nil => exact absurd rfl h
  | cons p pieces ih =>
    cases pieces with
    | nil => simp
    | cons q pieces =>
      rw [List.intercalate_cons_cons, List.map_cons, List.map_cons, List.intercalate_cons_cons,
        ← List.map_cons, ← ih (List.cons_ne_nil q pieces)]
      simp

theorem toList_text (l : Line) : l.text.toList = l.mnemonic.text.toList ++ tail l.operands := by
  rcases l with ⟨m, _ | ⟨o, os⟩⟩
  · exact (List.append_nil _).symm
  · have hne : ((o :: os).map Operand.text).map String.toList ≠ [] := by simp
    have htail : tail (o :: os) =
        ' ' :: [',', ' '].intercalate (((o :: os).map Operand.text).map String.toList) := by
      rw [cons_intercalate hne, tail, List.map_map, List.map_map]
      rfl
    rw [htail, text, String.toList_append, String.toList_append, String.toList_intercalate,
      List.append_assoc]
    rfl

theorem tail_cons (o : Operand) (os : List Operand) : ∃ rest, tail (o :: os) = ' ' :: rest := by
  cases os with
  | nil => exact ⟨_, List.intercalate_singleton⟩
  | cons p os => exact ⟨_, List.intercalate_cons_cons⟩

/-- The mnemonic ends where the operands begin. -/
theorem takeWhile_dropWhile_text (l : Line) :
    l.text.toList.takeWhile (· != ' ') = l.mnemonic.text.toList ∧
      l.text.toList.dropWhile (· != ' ') = tail l.operands := by
  have hmnemonic : ∀ c ∈ l.mnemonic.text.toList, (c != ' ') = true := fun c hc =>
    bne_iff_ne.mpr fun heq => l.mnemonic.blank_notMem_text (heq ▸ hc)
  have htail : (tail l.operands).takeWhile (· != ' ') = [] ∧
      (tail l.operands).dropWhile (· != ' ') = tail l.operands := by
    cases l.operands with
    | nil => exact ⟨rfl, rfl⟩
    | cons o os =>
      obtain ⟨rest, hrest⟩ := tail_cons o os
      rw [hrest]
      exact ⟨rfl, rfl⟩
  rw [toList_text, List.takeWhile_append_of_pos hmnemonic, List.dropWhile_append_of_pos hmnemonic,
    htail.1, htail.2]
  exact ⟨List.append_nil _, rfl⟩

theorem operandsOf?_tail {operands : List Operand} (h : ∀ o ∈ operands, o.Fits) :
    operandsOf? (tail operands) = some operands := by
  cases operands with
  | nil => rfl
  | cons o os =>
    have hcomma : ∀ piece ∈ (o :: os).map fun o => ' ' :: o.text.toList, ',' ∉ piece := by
      intro piece hpiece
      obtain ⟨p, -, rfl⟩ := List.mem_map.mp hpiece
      exact List.not_mem_cons_of_ne_of_not_mem (by decide) p.comma_notMem_text
    obtain ⟨rest, hrest⟩ := tail_cons o os
    have hne : tail (o :: os) ≠ [] := by
      rw [hrest]
      exact List.cons_ne_nil _ _
    rw [operandsOf?, if_neg hne, tail, List.splitOn_intercalate ',' hcomma (by simp), List.map_map]
    exact Operand.mapM_ofText?_text h

/-- **A spelled line is read again.** -/
theorem ofText?_text {l : Line} (h : l.Fits) : ofText? l.text = some l := by
  obtain ⟨htake, hdrop⟩ := l.takeWhile_dropWhile_text
  rw [ofText?, htake, hdrop, Mnemonic.ofText?_text, operandsOf?_tail h]
  rfl

/-- Lines that read alike are the same. -/
theorem text_inj {l l' : Line} (h : l.Fits) (h' : l'.Fits) : l.text = l'.text ↔ l = l' := by
  refine ⟨fun heq => ?_, congrArg text⟩
  have hread := ofText?_text h
  rw [heq, ofText?_text h'] at hread
  exact (Option.some.inj hread).symm

example : ofText? "DRW V1, VA, 12" = some ⟨.drw, [.register 1, .register 10, .rows 12]⟩ := by decide

end Line

end Assembly

end ChipEight
