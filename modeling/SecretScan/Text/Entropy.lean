/-!
# Shannon entropy

Bits per character of a text, from the frequencies of its characters.
-/

namespace SecretScan.Text

/-- How often each character occurs, in the order of first occurrence. -/
def frequencies (text : List Char) : List (Char × Nat) :=
  text.foldl count []
where
  count (counts : List (Char × Nat)) (c : Char) : List (Char × Nat) :=
    match counts with
    | [] => [(c, 1)]
    | (d, n) :: rest => if d = c then (d, n + 1) :: rest else (d, n) :: count rest c

/-- Shannon entropy in bits per character; zero for the empty text. -/
def entropy (text : List Char) : Float :=
  let size := text.length.toFloat
  (frequencies text).foldl
    (fun total (_, n) => let p := n.toFloat / size; total - p * p.log2) 0.0

end SecretScan.Text
