import HybridStorage.Proofs.Lines

/-!
# Open quotes

A line may hold anything but line breaks. What it reads as does not depend on the lines around it,
unless one of them leaves a quote open: then the break behind it belongs to the quoted field, and
the record goes on with the next line.
-/

namespace HybridStorage.Delimited

open Text

/-! ### The end of a line -/

/-- Where the reader stands behind a symbol that is no break, or within quotes. -/
def Mode.after (mode : Mode) (s : Symbol) : Mode :=
  match mode with
  | .quoted => if s = .char '"' then .closing else .quoted
  | .plain => if s = .char ',' then .field else .plain
  | .start | .field | .closing =>
    if s = .char '"' then .quoted else if s = .char ',' then .field else .plain

def Unbroken (line : List Symbol) : Prop := ∀ s ∈ line, isBreak s = false

/-- Where the reader stands at the end of a line that it began a record with. -/
def lineEnd (line : List Symbol) : Mode := line.foldl Mode.after .start

theorem Mode.after_ne_start (mode : Mode) (s : Symbol) : mode.after s ≠ .start := by
  cases mode <;> (unfold after; repeat' split) <;> exact nofun

theorem foldl_after_ne_start {mode : Mode} (inside : mode ≠ .start) (line : List Symbol) :
    line.foldl Mode.after mode ≠ .start := by
  induction line generalizing mode with
  | nil => exact inside
  | cons s others ih => exact ih (mode.after_ne_start s)

theorem lineEnd_ne_start {line : List Symbol} (some : line ≠ []) : lineEnd line ≠ .start := by
  obtain ⟨s, others, rfl⟩ := List.exists_cons_of_ne_nil some
  exact foldl_after_ne_start (Mode.after_ne_start .start s) others

theorem foldl_after_ne_quoted {mode : Mode} (open_ : mode ≠ .quoted) {line : List Symbol}
    (unquoted : ∀ s ∈ line, s ≠ .char '"') : line.foldl Mode.after mode ≠ .quoted := by
  induction line generalizing mode with
  | nil => exact open_
  | cons s others ih =>
    obtain ⟨first, others_unquoted⟩ := List.forall_mem_cons.mp unquoted
    refine ih ?_ others_unquoted
    cases mode with
    | quoted => exact absurd rfl open_
    | _ => simp only [Mode.after, if_neg first]; split <;> exact nofun

section

variable {mode : Mode} {fields : List RawField} {text : RawField} {s : Symbol}
  {line rest : List Symbol}

/-- A symbol within a record moves the reader, whatever comes behind it. -/
theorem readFrom_after (fields : List RawField) (text : RawField)
    (inside : mode = .quoted ∨ isBreak s = false) :
    ∃ fields' text', ∀ rest,
      readFrom mode fields text (s :: rest) = readFrom (mode.after s) fields' text' rest := by
  by_cases quoted : mode = .quoted
  · subst quoted
    by_cases quote : s = .char '"'
    · exact ⟨fields, text, fun rest => by simp [readFrom, Mode.after, quote]⟩
    · exact ⟨fields, s :: text, fun rest => by simp [readFrom, Mode.after, quote]⟩
  · have unbroken := inside.resolve_left quoted
    by_cases comma : s = .char ','
    · subst comma
      refine ⟨text.reverse :: fields, [], fun rest => (readFrom_comma quoted).trans ?_⟩
      cases mode <;> first | rfl | exact absurd rfl quoted
    · by_cases quote : s = .char '"'
      · subst quote
        -- A quote opens quotes at the start of a field; behind closed ones it stands for itself.
        cases mode with
        | start => exact ⟨fields, text, fun rest => by simp [readFrom, Mode.after]⟩
        | field => exact ⟨fields, text, fun rest => by simp [readFrom, Mode.after]⟩
        | closing =>
          exact ⟨fields, .char '"' :: text, fun rest => by simp [readFrom, Mode.after]⟩
        | plain => exact ⟨fields, .char '"' :: text, fun rest => by simp [readFrom, Mode.after]⟩
        | quoted => exact absurd rfl quoted
      · refine ⟨fields, s :: text, fun rest =>
          (readFrom_ordinary quoted ⟨quote, unbroken⟩ comma).trans ?_⟩
        cases mode <;> simp [Mode.after, quote, comma] at quoted ⊢

/-- So does a line. -/
theorem readFrom_foldl_after (mode : Mode) (fields : List RawField) (text : RawField)
    (unbroken : Unbroken line) :
    ∃ fields' text', ∀ rest, readFrom mode fields text (line ++ rest) =
      readFrom (line.foldl Mode.after mode) fields' text' rest := by
  induction line generalizing mode fields text with
  | nil => exact ⟨fields, text, fun rest => rfl⟩
  | cons s others ih =>
    obtain ⟨first, others_unbroken⟩ := List.forall_mem_cons.mp unbroken
    obtain ⟨fields', text', one⟩ := readFrom_after fields text (.inr first)
    obtain ⟨fields'', text'', all⟩ := ih (mode.after s) fields' text' others_unbroken
    exact ⟨fields'', text'', fun rest => (one (others ++ rest)).trans (all rest)⟩

/-- Outside of quotes a record ends with its line. -/
theorem readFrom_append_ends (closed : mode ≠ .quoted) (ends : Ends rest) :
    readFrom mode fields text rest =
      readFrom mode fields text [] ++ readFrom .start [] [] rest := by
  cases rest with
  | nil => exact (List.append_nil _).symm
  | cons s others =>
    have breaks : isBreak s = true := ends s rfl
    rw [readFrom_start_break breaks]
    simp only [isBreak, decide_eq_true_eq] at breaks
    cases mode with
    | quoted => exact absurd rfl closed
    | _ => rcases breaks with rfl | rfl <;> simp [readFrom]

theorem readFrom_append (unbroken : Unbroken line) (closed : line.foldl Mode.after mode ≠ .quoted)
    (ends : Ends rest) :
    readFrom mode fields text (line ++ rest) =
      readFrom mode fields text line ++ readFrom .start [] [] rest := by
  obtain ⟨fields', text', read⟩ := readFrom_foldl_after mode fields text unbroken
  have alone := read []
  rw [List.append_nil] at alone
  rw [read rest, alone, readFrom_append_ends closed ends]

theorem length_readFrom_le (unbroken : Unbroken line) :
    (readFrom mode fields text line).length ≤ 1 := by
  obtain ⟨fields', text', read⟩ := readFrom_foldl_after mode fields text unbroken
  rw [← List.append_nil line, read []]
  cases line.foldl Mode.after mode <;> simp [readFrom]

theorem length_readFrom (fields : List RawField) (text : RawField) (unbroken : Unbroken line)
    (inside : line.foldl Mode.after mode ≠ .start) :
    (readFrom mode fields text line).length = 1 := by
  obtain ⟨fields', text', read⟩ := readFrom_foldl_after mode fields text unbroken
  rw [← List.append_nil line, read []]
  cases last : line.foldl Mode.after mode with
  | start => exact absurd last inside
  | _ => simp [readFrom]

/-- Without a further quote all that follows belongs to the quoted field. -/
theorem length_readFrom_quoted (unquoted : ∀ s ∈ rest, s ≠ .char '"') :
    (readFrom .quoted fields text rest).length = 1 := by
  induction rest generalizing text with
  | nil => simp [readFrom]
  | cons s others ih =>
    obtain ⟨first, others_unquoted⟩ := List.forall_mem_cons.mp unquoted
    rw [readFrom, if_neg first]
    exact ih others_unquoted

theorem LineBreak.readFrom_quoted (b : LineBreak) (fields : List RawField) (text : RawField) :
    ∃ text', ∀ rest, readFrom .quoted fields text (b.text.map .char ++ rest) =
      readFrom .quoted fields text' rest := by
  cases b with
  | lf => exact ⟨.char '\n' :: text, fun rest => by simp [LineBreak.text, readFrom]⟩
  | crlf =>
    exact ⟨.char '\n' :: .char '\r' :: text, fun rest => by simp [LineBreak.text, readFrom]⟩
  | cr => exact ⟨.char '\r' :: text, fun rest => by simp [LineBreak.text, readFrom]⟩

end

/-! ### Lines of any content -/

def UnbrokenBytes (bytes : List UInt8) : Prop := ∀ b ∈ bytes, b ≠ 10 ∧ b ≠ 13

theorem UnbrokenBytes.unbroken {bytes : List UInt8} (h : UnbrokenBytes bytes) :
    Unbroken (Symbol.ofList bytes) := by
  intro s member
  cases s with
  | stray b => simp [isBreak]
  | char c =>
    have own : ∀ b ∈ String.utf8EncodeChar c, b ≠ 10 ∧ b ≠ 13 := fun b encoded =>
      h b (Symbol.bytes_of_mem_ofList member b encoded)
    simp only [isBreak, Symbol.char.injEq, decide_eq_false_iff_not]
    rintro (rfl | rfl)
    · exact absurd rfl (own 10 (by decide)).1
    · exact absurd rfl (own 13 (by decide)).2

theorem UnbrokenBytes.of_all {text : List Char}
    (inside : text.all (fun c => c ≠ '\n' ∧ c ≠ '\r') = true) :
    UnbrokenBytes (text.flatMap String.utf8EncodeChar) := by
  intro b member
  obtain ⟨c, within, encoded⟩ := List.mem_flatMap.mp member
  obtain ⟨feed, back⟩ := of_decide_eq_true (List.all_eq_true.mp inside c within)
  refine ⟨?_, ?_⟩
  · rintro rfl
    exact feed (Char.toNat_inj.mp (Symbol.toNat_of_mem_bytes encoded (by decide)))
  · rintro rfl
    exact back (Char.toNat_inj.mp (Symbol.toNat_of_mem_bytes encoded (by decide)))

theorem PlainBytes.unbrokenBytes {bytes : List UInt8} (plain : PlainBytes bytes) :
    UnbrokenBytes bytes := fun b member => ⟨(plain b member).1, (plain b member).2.1⟩

/-- A line behind a line break, with quotes or without. -/
structure RawLine where
  lineBreak : LineBreak
  bytes : List UInt8
  unbroken : UnbrokenBytes bytes

namespace RawLine

def symbols (l : RawLine) : List Symbol := Symbol.ofList l.bytes

def written (l : RawLine) : List UInt8 := l.lineBreak.bytes ++ l.bytes

def writtenSymbols (l : RawLine) : List Symbol := l.lineBreak.text.map .char ++ l.symbols

/-- The record of the line, if it is not empty, read by itself. -/
def records (l : RawLine) : List RawRecord := readFrom .start [] [] l.symbols

/-- No quote is open at the end of the line. -/
def Closes (l : RawLine) : Prop := lineEnd l.symbols ≠ .quoted

end RawLine

theorem RawLine.closes_of_plain {l : RawLine} (plain : PlainBytes l.bytes) : l.Closes :=
  foldl_after_ne_quoted (by decide) fun s member => (plain.unquoted s member).1

theorem RawLine.records_of_plain {l : RawLine} (plain : PlainBytes l.bytes) (some : l.bytes ≠ []) :
    l.records = [lineFields l.symbols] := by
  have symbols : l.symbols ≠ [] := fun none =>
    some (Symbol.ofList_injective (none.trans Symbol.ofList_nil.symm))
  have read : readFrom .start [] [] (l.symbols ++ []) = _ :=
    readFrom_start_line plain.unquoted symbols nofun
  rw [List.append_nil] at read
  exact read

/-- A line that leaves no quote open is read by itself, and so is the last one. -/
theorem readFrom_rawLines {lines : List RawLine} (closes : ∀ l ∈ lines.dropLast, l.Closes) :
    readFrom .start [] [] (lines.flatMap RawLine.writtenSymbols) =
      lines.flatMap RawLine.records := by
  induction lines with
  | nil => rfl
  | cons l rest ih =>
    rw [List.flatMap_cons, List.flatMap_cons, RawLine.writtenSymbols, List.append_assoc,
      LineBreak.readFrom_start, RawLine.records]
    by_cases last : rest = []
    · rw [last, List.flatMap_nil, List.append_nil, List.flatMap_nil, List.append_nil]
    · rw [List.dropLast_cons_of_ne_nil last] at closes
      obtain ⟨first, others⟩ := List.forall_mem_cons.mp closes
      have ends : Ends (rest.flatMap RawLine.writtenSymbols) :=
        ends_lines RawLine.lineBreak RawLine.symbols rest
      rw [RawLine.symbols, readFrom_append l.unbroken.unbroken first ends, ih others]

/-- Behind an open quote, lines without quotes belong to its record. -/
theorem length_readFrom_open {l : RawLine} (open_ : ¬l.Closes) {rest : List Symbol}
    (unquoted : ∀ s ∈ rest, s ≠ .char '"') :
    (readFrom .start [] [] (l.writtenSymbols ++ rest)).length = 1 := by
  obtain ⟨fields, text, read⟩ := readFrom_foldl_after .start [] [] l.unbroken.unbroken
  have quoted : (Symbol.ofList l.bytes).foldl Mode.after .start = .quoted :=
    Decidable.not_not.mp open_
  rw [RawLine.writtenSymbols, List.append_assoc, LineBreak.readFrom_start, RawLine.symbols, read,
    quoted]
  exact length_readFrom_quoted unquoted

/-! ### First lines -/

/-- The text without a byte order mark at its start. -/
def withoutMark (symbols : List Symbol) : List Symbol :=
  if symbols.head? = some (.char '\ufeff') then symbols.tail else symbols

theorem read_eq (symbols : List Symbol) :
    read symbols = readFrom .start [] [] (withoutMark symbols) := by
  cases symbols with
  | nil => rfl
  | cons s others =>
    by_cases mark : s = .char '\ufeff'
    · subst mark
      rw [withoutMark, List.head?_cons, if_pos rfl]
      rfl
    · rw [withoutMark, List.head?_cons, if_neg (fun same => mark (Option.some.inj same)), read]
      rintro left ⟨⟩
      exact mark rfl

theorem withoutMark_append {front rest : List Symbol} (ends : Ends rest) :
    withoutMark (front ++ rest) = withoutMark front ++ rest := by
  cases front with
  | nil =>
    -- A break is no byte order mark.
    have other : rest.head? ≠ some (.char '\ufeff') := fun mark =>
      absurd (ends _ mark) (by decide)
    rw [List.nil_append, withoutMark, if_neg other]
    rfl
  | cons s others =>
    unfold withoutMark
    rw [List.cons_append, List.head?_cons, List.head?_cons]
    split <;> rfl

theorem mem_of_mem_withoutMark {s : Symbol} {symbols : List Symbol}
    (member : s ∈ withoutMark symbols) : s ∈ symbols := by
  unfold withoutMark at member
  split at member
  · exact List.mem_of_mem_tail member
  · exact member

structure RawHeader where
  bytes : List UInt8
  unbroken : UnbrokenBytes bytes

namespace RawHeader

def symbols (h : RawHeader) : List Symbol := withoutMark (Symbol.ofList h.bytes)

theorem unbroken_symbols (h : RawHeader) : Unbroken h.symbols := fun s member =>
  h.unbroken.unbroken s (mem_of_mem_withoutMark member)

/-- The first line is a record of its own: something stands in it, and it leaves no quote open. -/
structure Sound (h : RawHeader) : Prop where
  some : h.symbols ≠ []
  closes : lineEnd h.symbols ≠ .quoted

def recordsUnder (h : RawHeader) (lines : List RawLine) : List RawRecord :=
  (read (Symbol.ofList (h.bytes ++ lines.flatMap RawLine.written))).tail

theorem recordsUnder_eq (h : RawHeader) (lines : List RawLine) :
    h.recordsUnder lines =
      (readFrom .start [] [] (h.symbols ++ lines.flatMap RawLine.writtenSymbols)).tail := by
  have split := ofList_lines RawLine.lineBreak RawLine.bytes h.bytes lines
  have ends : Ends (lines.flatMap RawLine.writtenSymbols) :=
    ends_lines RawLine.lineBreak RawLine.symbols lines
  have whole : h.recordsUnder lines =
      (read (Symbol.ofList h.bytes ++ lines.flatMap RawLine.writtenSymbols)).tail :=
    congrArg (fun symbols => (read symbols).tail) split
  rw [whole, read_eq, withoutMark_append ends, symbols]

theorem Sound.recordsUnder {h : RawHeader} (sound : h.Sound) (lines : List RawLine) :
    h.recordsUnder lines = readFrom .start [] [] (lines.flatMap RawLine.writtenSymbols) := by
  have ends : Ends (lines.flatMap RawLine.writtenSymbols) :=
    ends_lines RawLine.lineBreak RawLine.symbols lines
  obtain ⟨record, only⟩ := List.length_eq_one_iff.mp
    (length_readFrom [] [] h.unbroken_symbols (lineEnd_ne_start sound.some))
  rw [recordsUnder_eq, readFrom_append h.unbroken_symbols sound.closes ends, only]
  rfl

/-- What a first line that leaves a quote open makes of the line behind it. -/
theorem readFrom_of_open {h : RawHeader} (open_ : lineEnd h.symbols = .quoted) (line : RawLine) :
    ∃ fields text, ∀ rest, readFrom .start [] [] (h.symbols ++ (line.writtenSymbols ++ rest)) =
      readFrom .quoted fields text (line.symbols ++ rest) := by
  obtain ⟨fields, text, read⟩ := readFrom_foldl_after .start [] [] h.unbroken_symbols
  obtain ⟨text', broken⟩ := line.lineBreak.readFrom_quoted fields text
  refine ⟨fields, text', fun rest => ?_⟩
  rw [read, RawLine.writtenSymbols, List.append_assoc]
  exact (congrArg (fun mode => readFrom mode fields text _) open_).trans (broken _)

/-- A first line that is none, or that leaves a quote open, takes a single line in. -/
theorem recordsUnder_of_not_sound {h : RawHeader} (unsound : ¬h.Sound) (line : RawLine) :
    h.recordsUnder [line] = [] := by
  have short : (readFrom .start [] [] (h.symbols ++ (line.writtenSymbols ++ []))).length ≤ 1 := by
    by_cases empty : h.symbols = []
    · rw [empty, List.nil_append, List.append_nil, RawLine.writtenSymbols, LineBreak.readFrom_start]
      exact length_readFrom_le line.unbroken.unbroken
    · have open_ := Decidable.not_not.mp fun closes => unsound ⟨empty, closes⟩
      obtain ⟨fields, text, read⟩ := readFrom_of_open open_ line
      rw [read, List.append_nil]
      exact length_readFrom_le line.unbroken.unbroken
  rw [recordsUnder_eq, List.flatMap_cons, List.flatMap_nil]
  exact List.eq_nil_of_length_eq_zero (by rw [List.length_tail]; omega)

/-- Its record ends with a line that leaves no quote open, whether it began within quotes or not. -/
theorem recordsUnder_of_not_sound_cons {h : RawHeader} (unsound : ¬h.Sound) {line : RawLine}
    (some : line.symbols ≠ []) (closes : line.Closes)
    (ended : line.symbols.foldl Mode.after .quoted ≠ .quoted) (next : RawLine) :
    h.recordsUnder [line, next] = next.records := by
  have unbroken := line.unbroken.unbroken
  have ends : Ends ([next].flatMap RawLine.writtenSymbols) :=
    ends_lines RawLine.lineBreak RawLine.symbols [next]
  have tail : readFrom .start [] [] ([next].flatMap RawLine.writtenSymbols) = next.records := by
    rw [readFrom_rawLines (List.forall_mem_nil _), List.flatMap_singleton]
  rw [recordsUnder_eq, List.flatMap_cons]
  by_cases empty : h.symbols = []
  · obtain ⟨record, only⟩ := List.length_eq_one_iff.mp
      (length_readFrom [] [] unbroken (lineEnd_ne_start some))
    rw [empty, List.nil_append, RawLine.writtenSymbols, List.append_assoc,
      LineBreak.readFrom_start, RawLine.symbols, readFrom_append unbroken closes ends, only, tail]
    rfl
  · have open_ := Decidable.not_not.mp fun closes => unsound ⟨empty, closes⟩
    obtain ⟨fields, text, read⟩ := readFrom_of_open open_ line
    have inside : Mode.quoted ≠ .start := nofun
    obtain ⟨record, only⟩ := List.length_eq_one_iff.mp
      (length_readFrom fields text unbroken (foldl_after_ne_start inside _))
    rw [read, RawLine.symbols, readFrom_append unbroken ended ends, only, tail]
    rfl

end RawHeader

end HybridStorage.Delimited
