import SwbtDaemon.Lib.CString

/-!
# Formatted output

The conversions `%s`, `%u`, `%d` and `%llu` of the `printf` family without flags, width or
precision. A conversion that does not match its argument is undefined, as is one without an
argument; arguments that are left over are ignored.
-/

namespace Printf

/-- The conversions. -/
inductive Kind where
  | string
  | unsigned
  | int
  | unsignedLongLong
deriving DecidableEq, Repr

/-- The characters of a conversion after the percent sign. -/
def Kind.spec : Kind → List UInt8
  | .string => [0x73]
  | .unsigned => [0x75]
  | .int => [0x64]
  | .unsignedLongLong => [0x6C, 0x6C, 0x75]

/-- An argument of a call, by the type that it has after the promotions. -/
inductive Arg where
  | string (text : List UInt8)
  | unsigned (n : Nat)
  | int (n : Int)
  | unsignedLongLong (n : Nat)

/-- The conversion that an argument of this type needs. -/
def Arg.kind : Arg → Kind
  | .string _ => .string
  | .unsigned _ => .unsigned
  | .int _ => .int
  | .unsignedLongLong _ => .unsignedLongLong

/-- What the conversion prints. -/
def Arg.text : Arg → List UInt8
  | .string text => text
  | .unsigned n => CString.printUnsigned n
  | .int n => CString.printSigned n
  | .unsignedLongLong n => CString.printUnsigned n

/-- The rest of a format string, after `pending` characters of a conversion: `none` when the
behaviour is undefined. -/
def formatFrom (pending : Option (List UInt8)) : List UInt8 → List Arg → Option (List UInt8)
  | [], _ => if pending.isSome then none else some []
  | c :: cs, args =>
    match pending with
    | none =>
      if c = 0x25 then formatFrom (some []) cs args
      else (formatFrom none cs args).map fun text => c :: text
    | some spec =>
      match args with
      | [] => none
      | arg :: rest =>
        if spec ++ [c] = arg.kind.spec then
          (formatFrom none cs rest).map fun text => arg.text ++ text
        else if (spec ++ [c]).isPrefixOf arg.kind.spec then formatFrom (some (spec ++ [c])) cs args
        else none

/-- What `snprintf` prints into a buffer that is large enough. -/
def format (format : List UInt8) (args : List Arg) : Option (List UInt8) :=
  formatFrom none format args

/-! ## Formats in pieces -/

/-- A piece of a format string. -/
inductive Piece where
  | literal (text : List UInt8)
  | conversion (kind : Kind)
deriving DecidableEq, Repr

/-- The characters of a piece. -/
def Piece.format : Piece → List UInt8
  | .literal text => text
  | .conversion kind => 0x25 :: kind.spec

/-- A literal piece has no percent sign. -/
def Piece.Plain : Piece → Prop
  | .literal text => (0x25 : UInt8) ∉ text
  | .conversion _ => True

instance (piece : Piece) : Decidable piece.Plain :=
  match piece with
  | .literal text => inferInstanceAs (Decidable ((0x25 : UInt8) ∉ text))
  | .conversion _ => inferInstanceAs (Decidable True)

/-- What the pieces print: the literals, and the arguments in order. -/
def printPieces : List Piece → List Arg → Option (List UInt8)
  | [], _ => some []
  | .literal text :: pieces, args => (printPieces pieces args).map fun printed => text ++ printed
  | .conversion _ :: _, [] => none
  | .conversion kind :: pieces, arg :: args =>
    if arg.kind = kind then (printPieces pieces args).map fun printed => arg.text ++ printed
    else none

theorem printPieces_end (text : List UInt8) : printPieces [.literal text] [] = some text := by
  simp [printPieces]

theorem printPieces_literal {text printed : List UInt8} {pieces : List Piece} {args : List Arg}
    (h : printPieces pieces args = some printed) :
    printPieces (.literal text :: pieces) args = some (text ++ printed) := by
  rw [printPieces, h]
  rfl

theorem printPieces_conversion {kind : Kind} {arg : Arg} {printed : List UInt8}
    {pieces : List Piece} {args : List Arg} (hkind : arg.kind = kind)
    (h : printPieces pieces args = some printed) :
    printPieces (.conversion kind :: pieces) (arg :: args) = some (arg.text ++ printed) := by
  rw [printPieces, if_pos hkind, h]
  rfl

theorem printPieces_of_eq {pieces : List Piece} {args : List Arg} {printed text : List UInt8}
    (h : printPieces pieces args = some printed) (htext : printed = text) :
    printPieces pieces args = some text := by
  rw [h, htext]

/-- The number of arguments that the pieces take. -/
def arity : List Piece → Nat
  | [] => 0
  | .literal _ :: pieces => arity pieces
  | .conversion _ :: pieces => arity pieces + 1

/-- Pieces with their own arguments print before what follows them. -/
theorem printPieces_append {pieces pieces' : List Piece} {args args' : List Arg}
    {text text' : List UInt8} (h : printPieces pieces args = some text)
    (harity : args.length = arity pieces) (h' : printPieces pieces' args' = some text') :
    printPieces (pieces ++ pieces') (args ++ args') = some (text ++ text') := by
  induction pieces generalizing args text with
  | nil =>
    obtain rfl := List.length_eq_zero_iff.mp harity
    obtain rfl := Option.some.inj h
    exact h'
  | cons piece pieces ih =>
    cases piece with
    | literal literal =>
      obtain ⟨printed, hprinted, rfl⟩ := Option.map_eq_some_iff.mp h
      rw [List.append_assoc]
      exact printPieces_literal (ih hprinted harity)
    | conversion kind =>
      cases args with
      | nil => cases harity
      | cons arg args =>
        rw [printPieces] at h
        split at h
        · next hkind =>
          obtain ⟨printed, hprinted, rfl⟩ := Option.map_eq_some_iff.mp h
          rw [List.append_assoc]
          exact printPieces_conversion hkind (ih hprinted (Nat.succ.inj harity))
        · cases h

theorem formatFrom_literal {text : List UInt8} (h : (0x25 : UInt8) ∉ text) (cs : List UInt8)
    (args : List Arg) :
    formatFrom none (text ++ cs) args =
      (formatFrom none cs args).map fun printed => text ++ printed := by
  induction text with
  | nil => simp
  | cons c text ih =>
    obtain ⟨hc, htext⟩ : c ≠ 0x25 ∧ (0x25 : UInt8) ∉ text := by
      simpa [eq_comm] using h
    rw [List.cons_append, formatFrom, if_neg hc, ih htext, Option.map_map]
    rfl

theorem formatFrom_conversion_nil (kind : Kind) (cs : List UInt8) :
    formatFrom none (0x25 :: (kind.spec ++ cs)) [] = none := by
  cases kind <;> rfl

theorem formatFrom_conversion (kind : Kind) (arg : Arg) (cs : List UInt8) (args : List Arg) :
    formatFrom none (0x25 :: (kind.spec ++ cs)) (arg :: args) =
      if arg.kind = kind then (formatFrom none cs args).map fun printed => arg.text ++ printed
      else none := by
  cases kind <;> cases arg <;> rfl

/-- A format string prints its pieces. -/
theorem format_pieces {pieces : List Piece} (h : ∀ piece ∈ pieces, piece.Plain) (args : List Arg) :
    format (pieces.flatMap Piece.format) args = printPieces pieces args := by
  unfold format
  induction pieces generalizing args with
  | nil => rfl
  | cons piece pieces ih =>
    obtain ⟨hpiece, hpieces⟩ := List.forall_mem_cons.mp h
    rw [List.flatMap_cons]
    cases piece with
    | literal text =>
      rw [Piece.format, formatFrom_literal hpiece, ih hpieces]
      rfl
    | conversion kind =>
      rw [Piece.format, List.cons_append]
      cases args with
      | nil =>
        rw [formatFrom_conversion_nil]
        rfl
      | cons arg args =>
        rw [formatFrom_conversion, ih hpieces]
        rfl

end Printf
