import Mathlib.Data.List.Basic
import SecretTemplate.Text.Quoted

namespace SecretTemplate.Text

def escaped? (mark : Char) : Option Char :=
  match mark with
  | '0' => some '\x00'
  | 't' => some '\t'
  | 'r' => some '\r'
  | 'n' => some '\n'
  | '\x22' => some '\x22'
  | '\\' => some '\\'
  | _ => none

inductive Reading
  | inside
  | number (n : Nat)
  | behind

def pushFront (c : Char) : List (List Char) → List (List Char)
  | [] => [[c]]
  | text :: texts => (c :: text) :: texts

def readTexts : Reading → List Char → Option (List (List Char))
  | .inside, '\x22' :: cs => (readTexts .behind cs).map ([] :: ·)
  | .inside, '\\' :: 'u' :: '{' :: cs => readTexts (.number 0) cs
  | .inside, '\\' :: mark :: cs => (escaped? mark).bind fun c => (readTexts .inside cs).map (pushFront c)
  | .inside, c :: cs => (readTexts .inside cs).map (pushFront c)
  | .number n, '}' :: cs => (readTexts .inside cs).map (pushFront (Char.ofNat n))
  | .number n, digit :: cs => (hexValue? digit).bind fun value => readTexts (.number (n * 16 + value)) cs
  | .behind, [']'] => some []
  | .behind, ',' :: ' ' :: '\x22' :: cs => readTexts .inside cs
  | _, _ => none

def unquoteList (s : String) : Option (List String) :=
  match s.toList with
  | ['[', ']'] => some []
  | '[' :: '\x22' :: cs => (readTexts .inside cs).map (·.map String.ofList)
  | _ => none

theorem hexValue?_hexDigit : ∀ n < 16, hexValue? (hexDigit n) = some n := by decide

theorem hexDigit_ne_brace : ∀ n < 16, hexDigit n ≠ '}' := by decide

theorem readTexts_hexDigit {d : Nat} (digit : d < 16) (n : Nat) (cs : List Char) :
    readTexts (.number n) (hexDigit d :: cs) = readTexts (.number (n * 16 + d)) cs := by
  rw [readTexts, hexValue?_hexDigit d digit, Option.bind_some]
  exact hexDigit_ne_brace d digit

theorem readTexts_hex (n : Nat) (cs : List Char) :
    readTexts (.number 0) (hex n ++ cs) = readTexts (.number n) cs := by
  induction n using hex.induct generalizing cs with
  | case1 n small =>
    rw [hex, if_pos small, List.singleton_append, readTexts_hexDigit small, Nat.zero_mul, Nat.zero_add]
  | case2 n large ih =>
    -- The digits in front of the last one are read first, and so the number starts from nothing there as well.
    rw [hex, if_neg large, List.append_assoc, ih, List.singleton_append, readTexts_hexDigit (Nat.mod_lt n (by decide))]
    congr 2
    omega

theorem readTexts_plain {c : Char} (quote : c ≠ '\x22') (backslash : c ≠ '\\') (cs : List Char) :
    readTexts .inside (c :: cs) = (readTexts .inside cs).map (pushFront c) := by
  rw [readTexts]
  · exact quote
  · exact fun _ same => absurd same backslash
  · exact fun _ _ same => absurd same backslash

theorem readTexts_escapeChar (c : Char) (cs : List Char) :
    readTexts .inside (escapeChar c ++ cs) = (readTexts .inside cs).map (pushFront c) := by
  unfold escapeChar
  split
  -- The characters that have an escape of two characters.
  iterate 6 rfl
  rename_i quote backslash
  split
  · exact readTexts_plain quote backslash cs
  · calc readTexts .inside (['\\', 'u', '{'] ++ hex c.toNat ++ ['}'] ++ cs)
      _ = readTexts (.number 0) (hex c.toNat ++ '}' :: cs) := by
        rw [List.append_assoc, List.append_assoc]
        rfl
      _ = (readTexts .inside cs).map (pushFront (Char.ofNat c.toNat)) := by
        rw [readTexts_hex]
        rfl
      _ = (readTexts .inside cs).map (pushFront c) := by rw [Char.ofNat_toNat]

theorem readTexts_flatMap (text cs : List Char) :
    readTexts .inside (text.flatMap escapeChar ++ '\x22' :: cs) = (readTexts .behind cs).map (text :: ·) := by
  induction text with
  | nil => rfl
  | cons c text ih =>
    rw [List.flatMap_cons, List.append_assoc, readTexts_escapeChar, ih, Option.map_map]
    rfl

def restOfList (texts : List (List Char)) : List Char :=
  texts.flatMap (fun text => ',' :: ' ' :: quoteChars text) ++ [']']

theorem restOfList_cons (text : List Char) (texts : List (List Char)) :
    restOfList (text :: texts) = ',' :: ' ' :: (quoteChars text ++ restOfList texts) := by
  simp [restOfList]

theorem quoteChars_append (text cs : List Char) :
    quoteChars text ++ cs = '\x22' :: (text.flatMap escapeChar ++ '\x22' :: cs) := by
  simp [quoteChars]

theorem readTexts_restOfList (texts : List (List Char)) : readTexts .behind (restOfList texts) = some texts := by
  induction texts with
  | nil => rfl
  | cons text texts ih =>
    rw [restOfList_cons, quoteChars_append, readTexts, readTexts_flatMap, ih, Option.map_some]

theorem intercalate_cons (separator first : List Char) (rest : List (List Char)) :
    separator.intercalate (first :: rest) = first ++ rest.flatMap (separator ++ ·) := by
  induction rest generalizing first with
  | nil => simp
  | cons next rest ih => rw [List.intercalate_cons_cons, ih, List.flatMap_cons, List.append_assoc, List.append_assoc]

theorem toList_quoteList_cons (text : String) (texts : List String) :
    (quoteList (text :: texts)).toList = '[' :: (quoteChars text.toList ++ restOfList (texts.map String.toList)) := by
  have quoted : (text :: texts).map (String.toList ∘ quote) = (text :: texts).map (quoteChars ∘ String.toList) := by
    refine List.map_congr_left fun s _ => ?_
    simp [quote]
  rw [quoteList, String.toList_append, String.toList_append, String.toList_intercalate, List.map_map, quoted,
    List.map_cons, intercalate_cons, restOfList, List.flatMap_map, List.flatMap_map]
  simp

theorem unquoteList_quoteList (texts : List String) : unquoteList (quoteList texts) = some texts := by
  cases texts with
  | nil => rfl
  | cons text texts =>
    unfold unquoteList
    rw [toList_quoteList_cons, quoteChars_append]
    simp only [readTexts_flatMap, readTexts_restOfList, Option.map_some]
    simp

example : unquoteList "[\"a\\\", \\\"b\", \"\", \"\\u\x7b7\x7d\\n\"]" = some ["a\", \"b", "", "\x07\n"] := by decide

theorem quoteList_injective {texts others : List String} (same : quoteList texts = quoteList others) :
    texts = others := by
  have read := unquoteList_quoteList texts
  rw [same, unquoteList_quoteList] at read
  exact (Option.some.inj read).symm

theorem isShown_hexDigit : ∀ n < 16, isShown (hexDigit n) = true := by decide

theorem all_isShown_hex (n : Nat) : (hex n).all isShown = true := by
  induction n using hex.induct with
  | case1 n small => simp [hex, small, isShown_hexDigit]
  | case2 n large ih =>
    rw [hex, if_neg large, List.all_append, ih, List.all_cons, isShown_hexDigit _ (Nat.mod_lt n (by decide))]
    rfl

theorem all_isShown_escapeChar (c : Char) : (escapeChar c).all isShown = true := by
  unfold escapeChar
  split
  iterate 6 decide
  split
  · rename_i shown
    simp [shown]
  · rw [List.all_append, List.all_append, all_isShown_hex]
    decide

theorem all_isShown_quoteChars (text : List Char) : (quoteChars text).all isShown = true := by
  have escapes : (text.flatMap escapeChar).all isShown = true := by
    rw [List.all_flatMap]
    exact List.all_eq_true.mpr fun c _ => all_isShown_escapeChar c
  rw [quoteChars, List.cons_append, List.all_cons, List.all_append, escapes]
  decide

theorem all_isShown_restOfList (texts : List (List Char)) : (restOfList texts).all isShown = true := by
  induction texts with
  | nil => decide
  | cons text texts ih =>
    rw [restOfList_cons, List.all_cons, List.all_cons, List.all_append, all_isShown_quoteChars, ih]
    decide

theorem isShown_of_mem_quoteList {texts : List String} {c : Char} (member : c ∈ (quoteList texts).toList) :
    isShown c = true := by
  refine List.all_eq_true.mp ?_ c member
  cases texts with
  | nil => decide
  | cons text texts =>
    rw [toList_quoteList_cons, List.all_cons, List.all_append, all_isShown_quoteChars, all_isShown_restOfList]
    decide

end SecretTemplate.Text
