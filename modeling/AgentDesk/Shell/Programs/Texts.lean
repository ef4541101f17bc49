import AgentDesk.Shell.Printing
import AgentDesk.Shell.State
/-!
# Programs on texts

The programs that print, and those that show, cut, sort and count the lines of files or of their
input.

## Main definitions

* `echo`, `printFormatted`, `sequence`, `baseName`, `directoryName`.
* `concatenate`, `head`, `tail`, `sortLines`, `exchange`, `count`.
-/

namespace AgentDesk.Shell

/-! ## Printing -/

/-- How an echo ends, whether it shows backslashes as they are, and what it shows. -/
def echoOptions : Bool → Bool → List String → Bool × Bool × List String
  | line, asIs, word :: rest =>
    match word.toList with
    | '-' :: c :: more =>
      let letters := c :: more
      if letters.all fun c => c == 'n' || c == 'e' || c == 'E' then
        let asIs := letters.foldl (fun asIs c =>
          if c == 'e' then false else if c == 'E' then true else asIs) asIs
        echoOptions (line && !letters.elem 'n') asIs rest
      else (line, asIs, word :: rest)
    | _ => (line, asIs, word :: rest)
  | line, asIs, [] => (line, asIs, [])

/-- Prints words. -/
def echo (s : State) (args : List String) : Result :=
  let (line, asIs, shown) := echoOptions true true args
  let text := Text.join " " shown
  let bytes := if asIs then text.toUTF8.toList else escapes text
  s.wrote 0 (bytes ++ (if line then [10] else [])) []

/-- Prints words by a format. -/
def printFormatted (s : State) : List String → Result
  | [] => s.done 2 "" "printf: usage: printf [-v var] format [arguments]\n"
  | "--" :: format :: args => s.wrote 0 (filled format args).bytes []
  | format :: args =>
    let f := filled format args
    let complaints := f.wrong.map fun a => s.complaint "printf" s!"{a}: invalid number"
    s.wrote (if f.wrong.isEmpty then 0 else 1) f.bytes (Text.join "" complaints).toUTF8.toList

/-- The numbers from one to another in steps. -/
def numbersFrom (first step last : Int) : List Int :=
  if step == 0 then []
  else
    let n := if 0 < step then (last - first) / step + 1 else (first - last) / (-step) + 1
    (List.range n.toNat).map fun (i : Nat) => first + step * Int.ofNat i

/-- Prints numbers in a row. -/
def sequence (s : State) (args : List String) : Result :=
  let shown (numbers : List Int) : Result :=
    s.done 0 (Text.join "" (numbers.map fun n => s!"{n}\n")) ""
  match args.mapM String.toInt? with
  | some [last] => shown (numbersFrom 1 1 last)
  | some [first, last] => shown (numbersFrom first 1 last)
  | some [first, step, last] => shown (numbersFrom first step last)
  | _ => s.done 1 "" "seq: missing operand\nTry 'seq --help' for more information.\n"

/-- The last name of a path, without an ending that is named. -/
def baseName (s : State) : List String → Result
  | [] => s.done 1 "" "basename: missing operand\nTry 'basename --help' for more information.\n"
  | path :: rest =>
    let name := ((Path.parse path).fileName?).getD (if path.startsWith "/" then "/" else path)
    let ending := rest.headD ""
    let cut := name.toList.take (name.length - ending.length)
    let name := if name.endsWith ending && name != ending then String.ofList cut else name
    s.done 0 s!"{name}\n" ""

/-- The directory that a path names a file in. -/
def directoryName (s : State) : List String → Result
  | [] => s.done 1 "" "dirname: missing operand\nTry 'dirname --help' for more information.\n"
  | path :: _ =>
    let whole := if path.startsWith "/" then "/" else "."
    let parent := (((Path.parse path).parent?).map Path.text).getD whole
    s.done 0 ((if parent.isEmpty then "." else parent) ++ "\n") ""

/-! ## Lines of files -/

/-- Bytes gathered from files, what was said of those that cannot be read, and how many there were
of each file. -/
structure Gathered where
  bytes : List UInt8
  complaints : List String
  parts : List (String × List UInt8)

/-- Gathers the bytes of files, or of the input if none is named. -/
def gather (s : State) (input : List UInt8) (say : String → FileFault → String)
    (names : List String) : Gathered :=
  if names.isEmpty then ⟨input, [], [("", input)]⟩
  else names.foldl (fun g name =>
    if name == "-" then ⟨g.bytes ++ input, g.complaints, g.parts ++ [(name, input)]⟩
    else
      match s.files.read (s.path name) with
      | .ok content =>
        ⟨g.bytes ++ content.toList, g.complaints, g.parts ++ [(name, content.toList)]⟩
      | .error fault => { g with complaints := g.complaints ++ [say name fault] }) ⟨[], [], []⟩

/-- The result of a program on gathered bytes. -/
def Gathered.result (g : Gathered) (s : State) (status : Nat) (out : List UInt8) : Result :=
  s.wrote (if g.complaints.isEmpty then 0 else status) out
    (Text.join "" (g.complaints.map fun c => s!"{c}\n")).toUTF8.toList

/-- Shows files, or the input. -/
def concatenate (s : State) (input : List UInt8) (names : List String) : Result :=
  let g := gather s input (fun name fault => s!"cat: {name}: {faultText fault}") names
  g.result s 1 g.bytes

/-- Puts a byte in front of lines that keep their ends. -/
def lineStep (b : UInt8) : List (List UInt8) → List (List UInt8)
  | [] => [[b]]
  | l :: ls => if b == 10 then [b] :: l :: ls else (b :: l) :: ls

/-- The lines of bytes, each with its end. -/
def byteLines (bytes : List UInt8) : List (List UInt8) := bytes.foldr lineStep []

/-- How much of a text a program shows: lines or bytes, and whether the number counts from the
start. -/
structure Extent where
  lines : Bool
  number : Nat
  fromStart : Bool
deriving Repr, BEq, DecidableEq

/-- Reads the number of an extent. -/
def extent? (lines : Bool) (text : String) : Option Extent :=
  match text.toList with
  | '+' :: r => (String.ofList r).toNat?.map fun n => ⟨lines, n, true⟩
  | '-' :: r => (String.ofList r).toNat?.map fun n => ⟨lines, n, false⟩
  | _ => text.toNat?.map fun n => ⟨lines, n, false⟩

/-- Reads the options of a program that shows a part of a text. -/
def extentAndNames : List String → Extent × List String
  | "-n" :: n :: rest => ((extent? true n).getD ⟨true, 10, false⟩, rest)
  | "-c" :: n :: rest => ((extent? false n).getD ⟨false, 10, false⟩, rest)
  | word :: rest =>
    match word.toList with
    | '-' :: 'n' :: n => ((extent? true (String.ofList n)).getD ⟨true, 10, false⟩, rest)
    | '-' :: 'c' :: n => ((extent? false (String.ofList n)).getD ⟨false, 10, false⟩, rest)
    | '-' :: n =>
      match extent? true (String.ofList n) with
      | some e => (e, rest)
      | none => (⟨true, 10, false⟩, word :: rest)
    | _ => (⟨true, 10, false⟩, word :: rest)
  | [] => (⟨true, 10, false⟩, [])

/-- What is said of a file that cannot be shown in part. -/
def unopened (program name : String) : FileFault → String
  | .isDirectory => s!"{program}: error reading '{name}': Is a directory"
  | fault => s!"{program}: cannot open '{name}' for reading: {faultText fault}"

/-- Shows the start of a text. -/
def head (s : State) (input : List UInt8) (args : List String) : Result :=
  let (e, names) := extentAndNames args
  let g := gather s input (unopened "head") names
  g.result s 1 <| if e.lines then ((byteLines g.bytes).take e.number).flatten
    else g.bytes.take e.number

/-- The end of a list, by an extent. -/
def Extent.ofEnd (e : Extent) (as : List α) : List α :=
  if e.fromStart then as.drop (e.number - 1) else as.drop (as.length - e.number)

/-- Shows the end of a text. -/
def tail (s : State) (input : List UInt8) (args : List String) : Result :=
  let (e, names) := extentAndNames args
  let g := gather s input (unopened "tail") names
  g.result s 1 <| if e.lines then (e.ofEnd (byteLines g.bytes)).flatten else e.ofEnd g.bytes

/-- The natural number at the start of bytes. -/
def leadingNat (bytes : List UInt8) : Nat :=
  (bytes.takeWhile fun b => 48 ≤ b && b ≤ 57).foldl (fun n b => n * 10 + (b.toNat - 48)) 0

/-- The number at the start of a line. -/
def leadingNumber (line : List UInt8) : Int :=
  match line.dropWhile (· == 32) with
  | 45 :: r => -Int.ofNat (leadingNat r)
  | r => Int.ofNat (leadingNat r)

/-- Whether one line is not behind another. -/
def lineLe (byNumber : Bool) (a b : List UInt8) : Bool :=
  if byNumber && leadingNumber a != leadingNumber b then leadingNumber a < leadingNumber b
  else (compare (a.map UInt8.toNat) (b.map UInt8.toNat)).isLE

/-- Elements without those that equal the one in front. -/
def withoutRepeats [BEq α] : List α → List α
  | a :: b :: rest => if a == b then withoutRepeats (b :: rest) else a :: withoutRepeats (b :: rest)
  | as => as

/-- Sorts lines. -/
def sortLines (s : State) (input : List UInt8) (args : List String) : Result :=
  let options := args.filter fun a => a.startsWith "-" && a != "-"
  let has (c : Char) : Bool := options.any fun o => o.toList.elem c
  let g := gather s input (fun name fault => s!"sort: cannot read: {name}: {faultText fault}")
    (args.filter fun a => !(a.startsWith "-" && a != "-"))
  let lines := (byteLines g.bytes).map fun l => l.filter (· != 10)
  let sorted := lines.mergeSort (lineLe (has 'n'))
  let sorted := if has 'u' then withoutRepeats sorted else sorted
  let sorted := if has 'r' then sorted.reverse else sorted
  if g.complaints.isEmpty then g.result s 2 (sorted.flatMap fun l => l ++ [10]) else g.result s 2 []

/-! ## Exchanging bytes -/

/-- The bytes of a set, in which a range has its first and its last byte. -/
def setBytes : List UInt8 → List UInt8
  | a :: 45 :: b :: rest =>
    (List.range (b.toNat + 1 - a.toNat)).map (fun i => a + UInt8.ofNat i) ++ setBytes rest
  | a :: rest => a :: setBytes rest
  | [] => []

/-- The byte that takes the place of another; the last one of a set stands for all that follow. -/
def exchanged (old new : List UInt8) (b : UInt8) : UInt8 :=
  match (old.reverse.idxOf? b).map (old.length - 1 - ·) with
  | some i => (new[i]?).getD (new.getLastD b)
  | none => b

/-- Exchanges the bytes of a text, or deletes some. -/
def exchange (s : State) (input : List UInt8) : List String → Result
  | ["-d", set] => s.wrote 0 (input.filter fun b => !(setBytes (escapes set)).elem b) []
  | [old, new] =>
    s.wrote 0 (input.map (exchanged (setBytes (escapes old)) (setBytes (escapes new)))) []
  | _ => s.done 1 "" "tr: missing operand\nTry 'tr --help' for more information.\n"

/-! ## Counting -/

/-- Whether a byte separates words. -/
def separatesWords (b : UInt8) : Bool := b == 32 || (9 ≤ b && b ≤ 13)

/-- The numbers of lines, words and bytes. -/
def counts (bytes : List UInt8) : List Nat :=
  [(bytes.filter (· == 10)).length,
    ((Text.splitOn separatesWords bytes).filter fun w => !w.isEmpty).length, bytes.length]

/-- Counts lines, words and bytes, or what the options ask for. -/
def count (s : State) (input : List UInt8) (args : List String) : Result :=
  let (options, names) := args.partition fun a => a.startsWith "-" && a != "-"
  let asked := options.flatMap fun o => o.toList.drop 1
  let wanted := (List.range 3).filter fun i =>
    asked.isEmpty || asked.any fun c => ['l', 'w', 'c'][i]? == some c || (i == 2 && c == 'm')
  let g := gather s input (fun name fault => s!"wc: {name}: {faultText fault}") names
  let total := [("total", g.bytes)]
  let rows := (if 1 < names.length then g.parts ++ total else g.parts).map fun (name, bytes) =>
    (name, wanted.filterMap fun i => (counts bytes)[i]?)
  let width :=
    if wanted.length == 1 && names.length ≤ 1 then 1
    else if names.isEmpty || names.elem "-" then 7
    else (toString g.bytes.length).length
  let line (row : String × List Nat) : String :=
    let numbers := Text.join " " (row.2.map fun n => Text.padLeft width (toString n))
    if row.1.isEmpty then s!"{numbers}\n" else s!"{numbers} {row.1}\n"
  g.result s 1 (Text.join "" (rows.map line)).toUTF8.toList

end AgentDesk.Shell
