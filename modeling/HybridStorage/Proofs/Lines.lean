import HybridStorage.Delimited.Reader
import HybridStorage.Proofs.Symbols

/-!
# Lines as records

Where no quotes stand, every line that is not empty is a record, split at its commas, and an empty
line is none. `read_lines` says so for a whole text.
-/

namespace HybridStorage.Delimited

open Text

def isBreak (s : Symbol) : Bool := s = .char '\n' ∨ s = .char '\r'

def Unquoted (line : List Symbol) : Prop := ∀ s ∈ line, s ≠ .char '"' ∧ isBreak s = false

def lineFields (line : List Symbol) : RawRecord := line.splitOn (.char ',')

/-- A line is over here. -/
def Ends (rest : List Symbol) : Prop := ∀ s ∈ rest.head?, isBreak s = true

/-! ### Within a record -/

section

variable {mode : Mode} {fields : List RawField} {text : RawField} {s : Symbol}
  {line rest : List Symbol}

theorem readFrom_comma (open_ : mode ≠ .quoted) :
    readFrom mode fields text (.char ',' :: rest) =
      readFrom .field (text.reverse :: fields) [] rest := by
  cases mode with
  | quoted => exact absurd rfl open_
  | _ => simp [readFrom]

theorem readFrom_ordinary (open_ : mode ≠ .quoted) (plain : s ≠ .char '"' ∧ isBreak s = false)
    (other : s ≠ .char ',') :
    readFrom mode fields text (s :: rest) = readFrom .plain fields (s :: text) rest := by
  obtain ⟨unquoted, inside⟩ := plain
  simp only [isBreak, decide_eq_false_iff_not] at inside
  cases mode with
  | quoted => exact absurd rfl open_
  | _ => simp [readFrom, unquoted, other, inside]

theorem readFrom_break (open_ : mode ≠ .quoted) (begun : mode ≠ .start)
    (breaks : isBreak s = true) :
    readFrom mode fields text (s :: rest) =
      (text.reverse :: fields).reverse :: readFrom .start [] [] rest := by
  simp only [isBreak, decide_eq_true_eq] at breaks
  cases mode with
  | start => exact absurd rfl begun
  | quoted => exact absurd rfl open_
  | _ => rcases breaks with rfl | rfl <;> simp [readFrom]

theorem readFrom_start_break (breaks : isBreak s = true) :
    readFrom .start [] [] (s :: rest) = readFrom .start [] [] rest := by
  simp only [isBreak, decide_eq_true_eq] at breaks
  rcases breaks with rfl | rfl <;> simp [readFrom]

theorem readFrom_end (inside : mode = .field ∨ mode = .plain) (ends : Ends rest) :
    readFrom mode fields text rest =
      (text.reverse :: fields).reverse :: readFrom .start [] [] rest := by
  cases rest with
  | nil => rcases inside with rfl | rfl <;> simp [readFrom]
  | cons s others =>
    have breaks : isBreak s = true := ends s rfl
    have open_ : mode ≠ .quoted := by rcases inside with rfl | rfl <;> decide
    have begun : mode ≠ .start := by rcases inside with rfl | rfl <;> decide
    rw [readFrom_break open_ begun breaks, readFrom_start_break breaks]

theorem readFrom_line (inside : mode = .field ∨ mode = .plain) (plain : Unquoted line)
    (ends : Ends rest) :
    readFrom mode fields text (line ++ rest) =
      (fields.reverse ++ line.splitOnPPrepend (· == .char ',') text) ::
        readFrom .start [] [] rest := by
  -- The text of the open field is what `splitOnPPrepend` accumulates, both reversed.
  induction line generalizing mode fields text with
  | nil => rw [List.nil_append, readFrom_end inside ends, List.reverse_cons,
      List.splitOnPPrepend_nil]
  | cons s others ih =>
    obtain ⟨first, others_plain⟩ := List.forall_mem_cons.mp plain
    have open_ : mode ≠ .quoted := by rcases inside with rfl | rfl <;> decide
    rw [List.cons_append]
    by_cases comma : s = .char ','
    · subst comma
      rw [readFrom_comma open_, ih (.inl rfl) others_plain,
        List.splitOnPPrepend_cons_pos (by simp), List.reverse_cons, List.append_assoc,
        List.singleton_append, List.splitOnPPrepend_nil_right]
    · rw [readFrom_ordinary open_ first comma, ih (.inr rfl) others_plain,
        List.splitOnPPrepend_cons_neg (by simpa using comma)]

/-- A record starts like a field of it, except that nothing is no record. -/
theorem readFrom_start (plain : s ≠ .char '"' ∧ isBreak s = false) :
    readFrom .start [] [] (s :: rest) = readFrom .plain [] [] (s :: rest) := by
  by_cases comma : s = .char ','
  · rw [comma, readFrom_comma (by decide), readFrom_comma (by decide)]
  · rw [readFrom_ordinary (by decide) plain comma, readFrom_ordinary (by decide) plain comma]

theorem readFrom_start_line (plain : Unquoted line) (some : line ≠ []) (ends : Ends rest) :
    readFrom .start [] [] (line ++ rest) = lineFields line :: readFrom .start [] [] rest := by
  obtain ⟨s, others, rfl⟩ := List.exists_cons_of_ne_nil some
  have first := plain s List.mem_cons_self
  have read : readFrom .plain [] [] (s :: others ++ rest) = _ :=
    readFrom_line (.inr rfl) plain ends
  rw [List.cons_append, readFrom_start first, ← List.cons_append, read, List.reverse_nil,
    List.nil_append, List.splitOnPPrepend_nil_right, lineFields, List.splitOn_eq_splitOnP]

end

/-! ### A whole file -/

inductive LineBreak where
  | lf
  | crlf
  | cr
  deriving DecidableEq, Repr

namespace LineBreak

def text : LineBreak → List Char
  | lf => ['\n']
  | crlf => ['\r', '\n']
  | cr => ['\r']

def bytes (b : LineBreak) : List UInt8 := b.text.flatMap String.utf8EncodeChar

theorem ofList_append (b : LineBreak) (front rest : List UInt8) :
    Symbol.ofList (front ++ (b.bytes ++ rest)) =
      Symbol.ofList front ++ (b.text.map .char ++ Symbol.ofList rest) := by
  rw [← Symbol.ofList_text]
  cases b <;> exact Symbol.ofList_append_ascii front (by decide) _

theorem ends (b : LineBreak) (rest : List Symbol) : Ends (b.text.map .char ++ rest) := by
  cases b <;> · rintro s ⟨⟩; decide

theorem readFrom_start (b : LineBreak) (rest : List Symbol) :
    readFrom .start [] [] (b.text.map .char ++ rest) = readFrom .start [] [] rest := by
  cases b with
  | lf => exact readFrom_start_break (by decide)
  | crlf => exact (readFrom_start_break (by decide)).trans (readFrom_start_break (by decide))
  | cr => exact readFrom_start_break (by decide)

end LineBreak

/-- No line feed, carriage return or quote. -/
def PlainBytes (bytes : List UInt8) : Prop := ∀ b ∈ bytes, b ≠ 10 ∧ b ≠ 13 ∧ b ≠ 34

theorem PlainBytes.unquoted {bytes : List UInt8} (plain : PlainBytes bytes) :
    Unquoted (Symbol.ofList bytes) := by
  intro s member
  cases s with
  | stray b => exact ⟨by simp, by simp [isBreak]⟩
  | char c =>
    have own : ∀ b ∈ String.utf8EncodeChar c, b ≠ 10 ∧ b ≠ 13 ∧ b ≠ 34 := fun b encoded =>
      plain b (Symbol.bytes_of_mem_ofList member b encoded)
    simp only [isBreak, ne_eq, Symbol.char.injEq, decide_eq_false_iff_not]
    refine ⟨?_, ?_⟩
    · rintro rfl
      exact absurd rfl (own 34 (by decide)).2.2
    · rintro (rfl | rfl)
      · exact absurd rfl (own 10 (by decide)).1
      · exact absurd rfl (own 13 (by decide)).2.1

theorem PlainBytes.of_text {text : List Char}
    (inside : ∀ c ∈ text, c ≠ '\n' ∧ c ≠ '\r' ∧ c ≠ '"') :
    PlainBytes (text.flatMap String.utf8EncodeChar) := by
  intro b member
  obtain ⟨c, within, encoded⟩ := List.mem_flatMap.mp member
  obtain ⟨feed, back, quote⟩ := inside c within
  refine ⟨?_, ?_, ?_⟩
  · rintro rfl
    exact feed (Char.toNat_inj.mp (Symbol.toNat_of_mem_bytes encoded (by decide)))
  · rintro rfl
    exact back (Char.toNat_inj.mp (Symbol.toNat_of_mem_bytes encoded (by decide)))
  · rintro rfl
    exact quote (Char.toNat_inj.mp (Symbol.toNat_of_mem_bytes encoded (by decide)))

theorem PlainBytes.of_all {text : List Char}
    (inside : text.all (fun c => c ≠ '\n' ∧ c ≠ '\r' ∧ c ≠ '"') = true) :
    PlainBytes (text.flatMap String.utf8EncodeChar) :=
  of_text fun c member => of_decide_eq_true (List.all_eq_true.mp inside c member)

/-- A line behind a line break. -/
structure Line where
  lineBreak : LineBreak
  bytes : List UInt8
  plain : PlainBytes bytes

namespace Line

def symbols (l : Line) : List Symbol := Symbol.ofList l.bytes

def fields (l : Line) : RawRecord := lineFields l.symbols

theorem unquoted (l : Line) : Unquoted l.symbols := l.plain.unquoted

def written (l : Line) : List UInt8 := l.lineBreak.bytes ++ l.bytes

def writtenSymbols (l : Line) : List Symbol := l.lineBreak.text.map .char ++ l.symbols

end Line

section

variable {ι : Type} (lineBreak : ι → LineBreak) (bytes : ι → List UInt8)

theorem ofList_lines (front : List UInt8) (lines : List ι) :
    Symbol.ofList (front ++ lines.flatMap fun l => (lineBreak l).bytes ++ bytes l) =
      Symbol.ofList front ++
        lines.flatMap fun l => (lineBreak l).text.map .char ++ Symbol.ofList (bytes l) := by
  induction lines generalizing front with
  | nil => rw [List.flatMap_nil, List.flatMap_nil, List.append_nil, List.append_nil]
  | cons l rest ih =>
    rw [List.flatMap_cons, List.flatMap_cons, List.append_assoc, List.append_assoc,
      LineBreak.ofList_append, ih]

theorem ends_lines (symbols : ι → List Symbol) (lines : List ι) :
    Ends (lines.flatMap fun l => (lineBreak l).text.map .char ++ symbols l) := by
  cases lines with
  | nil => rintro s ⟨⟩
  | cons l rest =>
    rw [List.flatMap_cons, List.append_assoc]
    exact (lineBreak l).ends _

end

theorem readFrom_lines (lines : List Line) :
    readFrom .start [] [] (lines.flatMap Line.writtenSymbols) =
      (lines.filter (·.bytes ≠ [])).map Line.fields := by
  induction lines with
  | nil => rfl
  | cons l rest ih =>
    rw [List.flatMap_cons, Line.writtenSymbols, List.append_assoc, LineBreak.readFrom_start]
    by_cases empty : l.bytes = []
    · rw [List.filter_cons_of_neg (by simpa using empty), ← ih, Line.symbols, empty,
        Symbol.ofList_nil, List.nil_append]
    · have some : l.symbols ≠ [] := fun none =>
        empty (Symbol.ofList_injective (none.trans Symbol.ofList_nil.symm))
      have ends : Ends (rest.flatMap Line.writtenSymbols) :=
        ends_lines Line.lineBreak Line.symbols rest
      rw [List.filter_cons_of_pos (by simpa using empty), List.map_cons, ← ih,
        readFrom_start_line l.unquoted some ends, Line.fields]

/-- A first line that is a record: neither empty nor only a byte order mark. -/
structure Header where
  bytes : List UInt8
  plain : PlainBytes bytes
  some : bytes ≠ []
  notMark : bytes ≠ String.utf8EncodeChar '\ufeff'

theorem read_header (header : Header) {rest : List Symbol} (ends : Ends rest) :
    (read (Symbol.ofList header.bytes ++ rest)).tail = readFrom .start [] [] rest := by
  have unquoted := header.plain.unquoted
  have some : Symbol.ofList header.bytes ≠ [] := fun none =>
    header.some (Symbol.ofList_injective (none.trans Symbol.ofList_nil.symm))
  have notMark : Symbol.ofList header.bytes ≠ [.char '\ufeff'] := by
    intro mark
    have encoded := Symbol.flatMap_bytes_ofList header.bytes
    rw [mark] at encoded
    exact header.notMark (encoded.symm.trans (List.append_nil _))
  generalize Symbol.ofList header.bytes = symbols at *
  obtain ⟨s, others, rfl⟩ := List.exists_cons_of_ne_nil some
  by_cases mark : s = .char '\ufeff'
  · subst mark
    have more : others ≠ [] := fun none => notMark (by rw [none])
    change (readFrom .start [] [] (others ++ rest)).tail = _
    rw [readFrom_start_line (List.forall_mem_cons.mp unquoted).2 more ends, List.tail_cons]
  · have whole : read (s :: others ++ rest) = readFrom .start [] [] (s :: others ++ rest) := by
      rw [List.cons_append, read]
      rintro left ⟨⟩
      exact mark rfl
    rw [whole, readFrom_start_line unquoted some ends, List.tail_cons]

/-- Without quotes the records behind the header are the lines that are not empty. -/
theorem read_file (header : Header) (lines : List Line) :
    (read (Symbol.ofList (header.bytes ++ lines.flatMap Line.written))).tail =
      (lines.filter (·.bytes ≠ [])).map Line.fields := by
  have split := ofList_lines Line.lineBreak Line.bytes header.bytes lines
  have ends := ends_lines Line.lineBreak Line.symbols lines
  exact (congrArg (fun symbols => (read symbols).tail) split).trans
    ((read_header header ends).trans (readFrom_lines lines))

end HybridStorage.Delimited
