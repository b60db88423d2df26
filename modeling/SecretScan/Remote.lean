import SecretScan.Checkout

/-!
# Scanning a remote repository

A repository is cloned into a folder of its own; then its files and its history are scanned into
one sink, in which paths are relative to the clone.
-/

namespace SecretScan.Remote

/-- What came of cloning. -/
inductive Clone where
  /-- The program could not be started. -/
  | notStarted (error : SystemError)
  | timedOut
  | ended (errors : List UInt8) (status : Git.Status) (tree : Entry)
  deriving Repr

/-- A whole number of nanoseconds in its largest unit, with as many places as are needed. -/
def limitText (d : Duration) : String :=
  let (unit, name) :=
    if 1000000000 ≤ d.nanos then (1000000000, "s")
    else if 1000000 ≤ d.nanos then (1000000, "ms")
    else if 1000 ≤ d.nanos then (1000, "µs")
    else (1, "ns")
  let places := (Decimal.natDigits unit).length - 1
  let fraction :=
      (Decimal.padLeft '0' places (Decimal.natDigits (d.nanos % unit))).reverse.dropWhile
    (· == '0')
  let fraction := if d.nanos % unit = 0 then [] else '.' :: fraction.reverse
  Decimal.ofNat (d.nanos / unit) ++ String.ofList fraction ++ name

/-- The clone as a tree, or why there is none. -/
def checkout (url : String) (limit : Duration) (c : Clone) : Except Failure Entry :=
  let command := "git clone --quiet " ++ url
  match c with
  | .notStarted e => .error (.subprocess command e.message)
  | .timedOut => .error (.timeout ("cloning " ++ url ++ " took longer than " ++ limitText limit))
  | .ended errors status tree =>
    if status.isSuccess then .ok tree
    else
      .error (.subprocess command (String.ofList (Text.trim (Text.Utf8.decodeLossy errors))))

/-- The sink for the findings in a clone of `url` in the folder `root`. -/
def sinkFor (o : ScanOptions) (url root : String) : Sink :=
  { options := { mask := o.mask, displayRoot := root, sourceUrl := url } }

/-- Scans the files and the latest commits of a clone, which stands in the folder `root`. -/
def scanClone {m : Type → Type} [Monad m] (b : Build) (e : Engine) (ask : Inquiry m)
    (o : ScanOptions) (root : String) (depth : Nat) (tree : Entry)
    (log : Except SystemError Git.Run) : m Checkout.Scan :=
  Checkout.scan b e ask o root (.ok tree) (some ⟨.latest depth, log⟩)

end SecretScan.Remote
