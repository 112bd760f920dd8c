import JobQuery.Cli.Run
import JobQuery.Report.Render

/-!
# Command-line scenarios

A run of the command-line program next to a server: the server is first brought into shape
by raw requests, then the program runs on a machine. The report holds the exit code, the
lines of standard output and standard error, the lines of the output file (when the program
created it), the server's log and its counters afterwards. Output is split into lines at
every kind of line break, and standard error loses its terminal escape sequences.

The server is the in-memory service behind a network the program cannot reach, so its log
is empty and the program leaves its counters as the set-up requests left them. When lines
come from several workers their order carries no meaning, and all line lists are sorted.
When workers may be cut off mid-read, the server's log is not reported and its counters
keep only the creates and deletes.
-/

namespace JobQuery

open Json Cli

/-- Whether a character ends a line of captured output: a line feed, a carriage return
(with a line feed after it, the two end one line), a vertical tab, a form feed, the
separators U+001C to U+001E, next line (U+0085) and the line and paragraph separators. -/
def isLineBreak (c : Char) : Bool :=
  let n := c.toNat
  n == 10 || n == 13 || n == 11 || n == 12 || (0x1C ≤ n && n ≤ 0x1E) || n == 0x85 ||
    n == 0x2028 || n == 0x2029

/-- The lines of captured output, the current line reversed in `line`: a final line break
ends the last line rather than starting an empty one. -/
def splitLines (line : List Char) : List Char → List String
  | [] => if line.isEmpty then [] else [String.ofList line.reverse]
  | '\r' :: '\n' :: rest => String.ofList line.reverse :: splitLines [] rest
  | c :: rest =>
    if isLineBreak c then String.ofList line.reverse :: splitLines [] rest
    else splitLines (c :: line) rest

/-- The lines of a text. -/
def textLines (s : String) : List String := splitLines [] s.toList

/-- Whether a character is a parameter of a control sequence (`0` to `?`). -/
def isParameterChar (c : Char) : Bool := 0x30 ≤ c.toNat && c.toNat ≤ 0x3F

/-- Whether a character is an intermediate of a control sequence (space to `/`). -/
def isIntermediateChar (c : Char) : Bool := 0x20 ≤ c.toNat && c.toNat ≤ 0x2F

/-- What follows a control sequence whose `ESC [` is already read: the text after its
parameters, intermediates and final character (`@` to `~`), or `none` when there is no
final character. -/
def afterControlSequence (cs : List Char) : Option (List Char) :=
  match (cs.dropWhile isParameterChar).dropWhile isIntermediateChar with
  | f :: tail => if 0x40 ≤ f.toNat && f.toNat ≤ 0x7E then some tail else none
  | [] => none

theorem dropWhile_length_le {α : Type} (p : α → Bool) :
    ∀ l : List α, (l.dropWhile p).length ≤ l.length
  | [] => by simp
  | a :: l => by
    have := dropWhile_length_le p l
    simp only [List.dropWhile]
    split
    · simp only [List.length_cons]; omega
    · simp

theorem afterControlSequence_shorter {cs rest : List Char}
    (h : afterControlSequence cs = some rest) : rest.length < cs.length := by
  unfold afterControlSequence at h
  have h1 := dropWhile_length_le isParameterChar cs
  have h2 := dropWhile_length_le isIntermediateChar (cs.dropWhile isParameterChar)
  split at h
  · rename_i f tail heq
    split at h
    · simp only [Option.some.injEq] at h
      subst h
      rw [heq] at h2
      simp only [List.length_cons] at h2
      omega
    · simp at h
  · simp at h

/-- Text with its terminal escape sequences removed: an escape followed by `[`, parameters,
intermediates and a final character, or an escape followed by one character from `@` to
`_` other than `[`. An escape that starts neither stays. -/
def stripEscapes : List Char → List Char
  | [] => []
  | c :: rest =>
    if c.toNat != 0x1B then c :: stripEscapes rest
    else match rest with
      | '[' :: more =>
        match h : afterControlSequence more with
        | some tail =>
          have := afterControlSequence_shorter h
          stripEscapes tail
        | none => c :: stripEscapes ('[' :: more)
      | d :: more =>
        if 0x40 ≤ d.toNat && d.toNat ≤ 0x5F then stripEscapes more
        else c :: stripEscapes (d :: more)
      | [] => [c]
termination_by cs => cs.length

/-- Lines as a JSON array, sorted when `sorted`. -/
def linesValue (sorted : Bool) (ls : List String) : Value :=
  .arr ((if sorted then ls.mergeSort fun a b => decide (a ≤ b) else ls).map Value.str)

/-- Run the program with `args` on `machine`, next to `server` once `setup` has been sent
to it; `outFile` is the file whose lines are reported. -/
def cliReport (machine : Machine) (args : List String) (server : FakeService)
    (setup : List ApiRequest) (outFile : String) (sorted quiet : Bool) : Value :=
  match server.handleAll setup with
  | .error m => panicReport m
  | .ok (_, server) =>
      let outcome := runProgram machine args
      let calls := if quiet then
          Value.object [("creates", Value.nat server.calls.creates),
            ("deletes", Value.nat server.calls.deletes)]
        else server.calls.toValue
      Value.object [
        ("exit", Value.nat outcome.exit),
        ("stdout", linesValue sorted (textLines outcome.stdout)),
        ("stderr",
          linesValue sorted (textLines (String.ofList (stripEscapes outcome.stderr.toList)))),
        ("output_file", orNull (fun ls => linesValue sorted (textLines (String.join ls)))
          (outcome.created.lookup outFile)),
        ("server", if quiet then .null else .arr []),
        ("calls", calls),
        ("live_jobs", Value.nat server.jobs.length)]

end JobQuery
