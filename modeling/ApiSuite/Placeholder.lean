import ApiSuite.Text.Basic

/-! # Placeholders

A placeholder is two opening braces, an inner text without braces and line feeds, and two closing
braces. A text is read from left to right into pieces, each a placeholder or a single character;
an opening pair that no closing pair matches is made of ordinary characters.
-/
namespace ApiSuite

inductive Piece where
  | literal (c : Char)
  | hole (inner : List Char)
  deriving DecidableEq

namespace Piece

def isInner (c : Char) : Bool := c != '\x7b' && c != '\x7d' && c != '\n'

def source : Piece → List Char
  | literal c => [c]
  | hole inner => '\x7b' :: '\x7b' :: (inner ++ ['\x7d', '\x7d'])

def nameOf (inner : List Char) : String := .ofList (Text.trim inner)

def name? : Piece → Option String
  | literal _ => none
  | hole inner => some (nameOf inner)

/-- The inner text and the rest behind a placeholder that opens the text. -/
def opening? : List Char → Option (List Char × List Char)
  | '\x7b' :: '\x7b' :: rest =>
    match rest.dropWhile isInner with
    | '\x7d' :: '\x7d' :: after => some (rest.takeWhile isInner, after)
    | _ => none
  | _ => none

theorem opening?_eq_some {text inner after : List Char}
    (h : opening? text = some (inner, after)) :
    text = (hole inner).source ++ after ∧ ∀ c ∈ inner, isInner c := by
  unfold opening? at h
  split at h
  · rename_i rest
    split at h
    · rename_i tail hd
      simp only [Option.some.injEq, Prod.mk.injEq] at h
      obtain ⟨rfl, rfl⟩ := h
      refine ⟨?_, fun c hc => ?_⟩
      · conv => lhs; rw [← List.takeWhile_append_dropWhile (p := isInner) (l := rest), hd]
        simp [source]
      · exact List.all_eq_true.1 List.all_takeWhile c hc
    · simp at h
  · simp at h

def hasOpening : List Char → Bool
  | '\x7b' :: '\x7b' :: _ => true
  | _ :: rest => hasOpening rest
  | [] => false

def scan (text : List Char) : List Piece :=
  match _h : opening? text with
  | some (inner, after) => hole inner :: scan after
  | none => match text with
    | [] => []
    | c :: rest => literal c :: scan rest
  termination_by text.length
  decreasing_by
    · have := (opening?_eq_some _h).1
      subst this
      simp [source]
      omega
    · simp

end Piece

/-- The names of the placeholders of a text, in order and with repetitions. -/
def placeholders (text : String) : List String := (Piece.scan text.toList).filterMap Piece.name?

end ApiSuite
