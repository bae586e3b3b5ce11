/-!
# Classes of characters in domain names

The tables of the rules for labels: which characters may stand in a label at all, which are marks,
which run from right to left, how letters join, and how characters are put together and taken apart.
A set is written as numbers, by turns the distance from the end of a run to the next one and the
length of that run.
-/

namespace ArrivalRates.Url.DomainName

/-- A set of code points, as the first and the last of each run. -/
abbrev CodeSet := List (Nat × Nat)

def CodeSet.has (set : CodeSet) (c : Char) : Bool :=
  set.any fun (first, last) => first ≤ c.toNat && c.toNat ≤ last

def numbers (lines : List String) : List Nat :=
  lines.flatMap fun line => (line.splitOn " ").filterMap String.toNat?

/-- The runs behind a code point that are so far from each other and so long. -/
def runsAfter (code : Nat) : List Nat → CodeSet
  | gap :: length :: rest =>
    (code + gap, code + gap + length - 1) :: runsAfter (code + gap + length) rest
  | _ => []

def runs (sizes : List Nat) : CodeSet := runsAfter 0 sizes

/-- Runs of code points with a number for each. -/
def numberedRunsAfter (code : Nat) : List Nat → List (Nat × Nat × Nat)
  | gap :: length :: value :: rest =>
    (code + gap, code + gap + length - 1, value) :: numberedRunsAfter (code + gap + length) rest
  | _ => []

def numberedRuns (sizes : List Nat) : List (Nat × Nat × Nat) := numberedRunsAfter 0 sizes

/-- Code points that stand for two others each, as far from one another as the numbers say. -/
def pairsAfter (code : Nat) : List Nat → List (Nat × Nat × Nat)
  | gap :: first :: second :: rest =>
    (code + gap, first, second) :: pairsAfter (code + gap) rest
  | _ => []

def pairs (codes : List Nat) : List (Nat × Nat × Nat) := pairsAfter 0 codes

/-- Code points in steps, each with the one that it stands for. -/
def stepsAfter (code : Nat) : List Nat → List (Nat × Nat)
  | gap :: count :: step :: target :: rest =>
    let first := code + gap
    (List.range count).map (fun i => (first + i * step, target + i * step))
      ++ stepsAfter (first + (count - 1) * step) rest
  | _ => []

def steps (codes : List Nat) : List (Nat × Nat) := stepsAfter 0 codes

/-- Characters that may stand in a label, some of them only beside certain others. -/
def allowed : CodeSet :=
  runs <| numbers
    [ "45 1 2 10 39 26 60 1 39 24 1 8 1 1 1 1 1 1 1 1 1 1 1 1 1 1 1 1 1 1 1 1 1 1 1 1 1 1 1 1 1 1",
      "1 1 1 1 1 1 1 1 1 1 1 1 1 1 1 1 1 1 1 1 3 1 1 2 1 1 1 1 1 1 3 1 1 1 1 1 1 1 2 1 1 1 1 1 1 1",
      "1 1 1 1 1 1 1 1 1 1 1 1 1 1 1 1 1 1 1 1 1 1 1 1 1 1 1 1 1 1 1 1 1 1 1 1 1 1 2 1 1 1 1 1 1 1",
      "2 1 1 1 2 1 3 2 4 1 2 1 3 3 2 1 2 1 1 1 1 1 2 1 1 2 1 1 2 1 3 1 1 1 2 3 1 7 10 1 1 1 1 1 1",
      "1 1 1 1 1 1 1 1 2 1 1 1 1 1 1 1 1 1 1 1 1 1 1 1 1 1 2 4 1 3 1 1 1 1 1 1 1 1 1 1 1 1 1 1 1 1",
      "1 1 1 1 1 1 1 1 1 1 1 1 1 1 1 1 1 1 1 1 1 1 1 1 1 1 1 1 1 1 1 1 1 1 1 1 1 1 1 1 1 1 7 2 1 2",
      "2 1 1 4 1 1 1 1 1 1 1 1 97 9 9 4 12 26 1 1 1 17 64 2 1 3 9 1 32 1 1 1 1 1 1 1 1 3 3 18 1 27",
      "35 8 1 1 1 1 1 1 1 1 1 1 1 1 1 1 1 1 1 1 1 1 1 1 1 1 1 3 1 4 1 2 2 51 48 1 1 1 1 1 1 1 1 1",
      "1 1 1 1 1 1 1 1 1 1 1 1 1 1 1 1 1 1 1 1 1 1 1 1 1 1 5 3 1 1 1 1 1 1 1 1 1 1 1 1 1 1 1 1 1 1",
      "1 1 1 1 1 1 1 1 1 1 1 1 1 1 1 1 1 1 1 1 1 1 1 1 1 1 1 1 1 1 1 1 1 1 1 2 1 1 1 1 1 1 1 1 1 1",
      "1 1 2 1 1 1 1 1 1 1 1 1 1 1 1 1 1 1 1 1 1 1 1 1 1 1 1 1 1 1 1 1 1 1 1 1 1 1 1 1 1 1 1 1 1 1",
      "1 1 1 1 1 1 1 1 1 1 1 1 1 1 1 1 1 1 1 1 1 1 1 1 1 1 1 1 1 1 1 1 1 1 1 1 1 1 1 1 1 1 1 1 1 1",
      "1 1 1 1 1 1 1 41 1 6 39 1 1 8 45 1 1 1 2 1 2 1 1 8 27 4 6 27 11 5 32 1 41 4 7 4 91 1 8 2 10",
      "1 22 16 59 2 101 14 54 7 1 2 46 18 28 4 11 5 24 1 6 9 74 1 117 8 4 2 10 1 19 1 8 2 2 2 22 1",
      "7 1 1 3 4 2 9 2 2 2 4 8 1 8 4 2 12 10 1 1 1 2 3 1 6 4 2 2 22 1 7 1 1 2 1 2 2 2 1 1 5 4 2 2",
      "3 3 1 10 1 9 16 11 3 1 9 1 3 1 22 1 7 1 2 1 5 2 10 1 3 1 3 2 1 15 4 2 10 9 7 1 3 1 8 2 2 2",
      "22 1 7 1 2 1 5 2 9 2 2 2 3 7 3 7 5 2 10 1 1 16 2 1 6 3 3 1 4 3 2 1 1 1 2 3 2 3 3 3 12 4 5 3",
      "3 1 4 2 1 6 1 14 10 16 13 1 3 1 23 1 16 2 9 1 3 1 4 7 2 1 3 2 1 2 4 2 10 16 4 1 8 1 3 1 23",
      "1 10 1 5 2 9 1 3 1 4 7 2 6 2 1 4 2 10 1 2 13 13 1 3 1 51 1 3 1 5 5 4 7 5 2 10 10 6 1 3 1 18",
      "3 24 1 9 1 1 2 7 3 1 4 6 1 1 1 8 6 10 2 2 13 50 1 7 5 15 1 10 39 2 1 1 1 5 1 24 1 1 1 12 1",
      "10 2 5 1 1 1 6 2 10 4 2 32 1 10 1 12 2 6 10 11 1 1 1 1 1 4 5 1 4 1 4 1 4 1 4 1 4 1 12 1 3 4",
      "2 1 1 5 7 1 3 1 13 1 4 1 4 1 4 1 4 1 4 1 12 1 3 9 1 57 74 6 78 50 43 2 3 256 73 1 4 2 7 1 1",
      "1 4 2 41 1 4 2 33 1 4 2 7 1 1 1 4 2 15 1 57 1 4 2 67 2 3 32 16 16 86 11 620 2 17 1 26 5 75",
      "6 8 7 22 9 22 11 20 12 13 1 3 1 2 12 52 2 30 3 1 4 2 2 10 38 10 6 89 7 43 5 70 10 31 1 12 4",
      "12 10 40 2 5 11 44 4 26 6 10 38 28 4 63 1 29 2 11 6 10 13 1 8 14 1 16 49 77 3 10 17 9 12",
      "116 12 56 8 10 3 49 82 3 1 39 5 44 3 1 11 1 18 1 28 13 1 34 37 64 1 1 1 1 1 1 1 1 1 1 1 1 1",
      "1 1 1 1 1 1 1 1 1 1 1 1 1 1 1 1 1 1 1 1 1 1 1 1 1 1 1 1 1 1 1 1 1 1 1 1 1 1 1 1 1 1 1 1 1 1",
      "1 1 1 1 1 1 1 1 1 1 1 1 1 1 1 1 1 1 1 1 1 1 1 1 1 1 1 1 1 1 1 1 1 1 1 1 1 1 1 1 1 1 1 1 1 1",
      "1 1 1 1 1 1 1 1 1 1 1 1 1 1 1 1 1 1 1 1 1 1 1 1 1 1 1 1 1 1 1 1 1 1 1 1 1 1 1 1 1 1 1 1 5 2",
      "2 1 1 1 1 1 1 1 1 1 1 1 1 1 1 1 1 1 1 1 1 1 1 1 1 1 1 1 1 1 1 1 1 1 1 1 1 1 1 1 1 1 1 1 1 1",
      "1 1 1 1 1 1 1 1 1 1 1 1 1 1 1 1 1 1 1 1 1 1 1 1 1 1 1 1 1 1 1 1 1 1 1 1 1 1 1 1 1 1 1 1 1 1",
      "1 1 1 1 1 1 9 8 6 10 8 8 8 8 6 10 8 8 8 8 1 1 1 1 1 1 1 1 1 1 1 1 1 51 2 4 1 15 1 9 3 3 2 8",
      "3 1 4 14 1 21 2 320 1 53 1 2731 48 1 1 3 2 1 1 1 1 1 1 4 1 1 2 1 6 5 1 1 1 1 1 1 1 1 1 1 1",
      "1 1 1 1 1 1 1 1 1 1 1 1 1 1 1 1 1 1 1 1 1 1 1 1 1 1 1 1 1 1 1 1 1 1 1 1 1 1 1 1 1 1 1 1 1 1",
      "1 1 1 1 1 1 1 1 1 1 1 1 1 1 1 1 1 1 1 1 1 1 1 1 1 1 1 1 1 1 1 1 1 1 1 1 1 1 1 1 1 2 7 1 1 4",
      "1 1 12 38 1 1 5 1 2 56 23 24 9 7 1 7 1 7 1 7 1 7 1 7 1 7 1 7 1 32 47 1 469 3 34 4 14 1 4 86",
      "2 2 2 2 2 94 6 43 112 32 48 16 512 6592 64 22157 67 46 2 269 3 28 21 1 1 1 1 1 1 1 1 1 1 1",
      "1 1 1 1 1 1 1 1 1 1 1 1 1 1 1 1 1 1 1 1 1 1 1 1 1 1 1 1 1 1 1 1 1 3 4 10 1 1 1 1 1 1 1 1 1",
      "1 1 1 1 1 1 1 1 1 1 1 1 1 1 1 1 1 1 1 1 1 2 72 10 2 37 9 3 1 1 1 1 1 1 1 1 1 1 1 1 3 1 1 1",
      "1 1 1 1 1 1 1 1 1 1 1 1 1 1 1 1 1 1 1 1 1 1 1 1 1 1 1 1 1 1 1 1 1 1 1 1 1 1 1 1 1 1 1 1 1 1",
      "1 1 1 1 1 1 1 1 1 1 1 1 1 1 8 1 1 1 1 2 1 1 1 1 1 1 1 1 2 3 1 1 2 1 1 1 3 1 1 1 1 1 1 1 1 1",
      "1 1 1 1 1 1 1 1 1 1 1 5 1 5 1 1 1 1 1 1 1 1 1 1 1 1 1 1 1 4 1 1 1 6 1 1 1 1 1 1 1 1 1 28 2",
      "2 46 4 1 19 52 12 70 10 10 6 24 3 1 1 49 2 36 44 65 14 11 6 31 1 55 9 14 2 10 6 23 3 73 24",
      "3 2 16 2 5 10 6 2 6 2 6 9 7 1 7 1 43 5 9 87 43 1 2 2 10 6 11172 8810 2 1 1 1 2 10 1 1 1 1 2",
      "2 3 244 1 769 16 67 1 396 12 1 26 1 19 1 2 1 15 2 14 34 123 258 1 130 29 3 49 15 1 31 32 13",
      "20 1 8 6 43 5 30 2 36 4 8 88 118 2 10 46 36 4 40 8 52 51 11 1 15 1 7 1 2 67 311 9 22 10 8",
      "24 1 127 6 2 1 1 44 1 2 3 1 2 23 10 23 9 31 65 19 1 2 10 22 10 26 70 56 6 2 64 4 1 2 5 8 1",
      "3 1 29 2 3 4 1 32 29 3 29 35 8 1 30 25 54 10 22 10 19 13 18 110 73 119 51 13 40 8 10 326 42",
      "1 2 3 2 78 29 10 1 8 33 31 22 42 21 27 23 9 71 31 16 9 60 7 1 13 25 7 10 6 53 1 10 4 4 8 36",
      "2 1 9 69 4 4 1 13 1 1 35 18 1 37 6 1 65 7 1 1 1 4 1 15 1 10 7 59 5 10 6 4 1 8 2 2 2 22 1 7",
      "1 2 1 5 1 10 2 2 2 3 2 1 6 1 5 7 2 7 3 5 139 75 5 10 4 4 30 70 1 1 8 10 166 54 2 9 23 6 34",
      "65 3 1 11 10 38 57 7 10 54 27 2 15 4 10 6 7 185 59 133 42 21 8 2 1 2 8 1 2 1 30 1 2 2 9 12",
      "10 70 8 2 46 2 8 1 2 27 63 8 1 8 74 3 1 18 73 263 9 1 45 1 9 15 10 24 30 2 22 1 14 73 7 1 2",
      "1 44 3 1 1 2 1 9 8 10 6 6 1 2 1 37 1 2 1 6 7 10 310 23 185 1 79 922 230 196 2636 97 15 1071",
      "4049 583 8633 569 7 31 1 10 6 79 1 10 6 30 2 5 11 55 9 4 12 10 9 21 5 19 720 32 128 75 4 57",
      "7 17 64 2 1 2 11 2 14 6136 8 1238 42 9 8935 4 1 7 1 2 1 291 45 3 17 4 8 396 2308 107 5 13 3",
      "9 7 10 3 2 4705 46 2 23 2745 55 4 50 8 1 14 1 22 5 1 15 1104 31 225 7 1 17 2 7 1 2 1 5 213",
      "45 3 14 2 10 4 1 321 31 17 58 1254 7 1 4 1 2 1 15 1 197 11 7 75 42 4 10 5798 42720 32 4153",
      "7 222 2 5762 14 7473 5151 4939" ]

def marks : CodeSet :=
  runs <| numbers
    [ "768 64 2 1 3 9 1 32 275 5 265 45 1 1 1 2 1 2 1 1 72 11 48 21 16 1 101 7 2 6 2 2 1 4 35 1 30",
      "27 91 11 58 9 9 1 24 4 1 9 1 3 1 5 43 3 60 8 42 24 1 33 54 3 1 18 1 7 10 2 29 3 56 1 1 7 2",
      "2 2 3 9 1 10 2 26 1 2 3 56 1 1 5 4 2 2 3 3 1 30 2 3 1 11 3 56 1 1 8 1 3 1 3 20 2 22 6 1 3",
      "56 1 1 7 2 2 2 3 7 3 10 2 30 1 59 5 3 3 1 4 9 1 40 5 55 1 1 7 1 3 1 4 7 2 11 2 29 3 56 1 1",
      "7 1 3 1 4 7 2 11 2 28 4 55 2 1 7 1 3 1 4 9 1 10 2 29 3 70 1 4 6 1 1 1 8 18 2 61 1 2 7 12 8",
      "98 1 2 9 11 6 74 2 27 1 1 1 1 1 4 2 49 2 1 1 5 7 1 3 1 2 5 6 1 4 1 4 1 4 1 4 1 4 1 12 1 3 9",
      "1 100 20 23 4 4 3 1 3 2 7 3 4 13 12 1 1 10 4 703 3 946 4 28 3 29 2 30 2 66 30 9 1 167 2 34",
      "1 118 12 4 12 219 5 57 10 1 29 2 1 48 14 1 16 49 5 47 17 38 9 12 3 30 13 56 14 48 20 152 3",
      "1 21 4 1 6 1 2 3 198 64 3823 3 141 1 96 32 554 4 107 2 30164 1 4 10 32 2 80 2 272 1 3 1 4 1",
      "23 5 4 1 83 2 50 18 26 18 13 1 38 8 25 13 44 4 47 14 36 1 67 14 12 1 8 2 45 3 50 1 1 3 2 2",
      "5 2 1 1 41 5 5 2 236 8 1 2 20272 1 769 16 973 1 226 1 149 5 1670 3 1 2 5 4 40 3 4 1 165 2",
      "573 4 387 2 153 11 49 4 122 3 53 15 41 1 2 2 10 4 45 11 7 1 61 3 36 14 16 2 44 1 12 3 48 14",
      "8 4 1 2 92 12 6 1 160 12 21 4 55 2 1 7 2 2 2 3 9 1 10 2 2 7 3 5 192 18 23 1 81 20 235 7 2 9",
      "27 2 82 17 106 13 101 15 256 15 245 6 1 2 2 4 1 1 1 2 141 7 2 7 3 1 28 10 40 7 1 4 8 1 9 11",
      "46 16 405 8 1 8 82 22 1 14 122 6 3 1 1 2 1 7 1 1 66 5 1 2 1 5 347 4 19449 5 59 7 1048 1 1",
      "55 7 4 81 1 11 2 19627 2 4705 46 2 23 2745 55 4 50 8 1 14 1 22 5 1 15 1360 7 1 17 2 7 1 2 1",
      "5 261 7 375 1 61 4 1504 7 109 7" ]

/-- Marks with a width of their own. -/
def spacingMarks : CodeSet :=
  runs <| numbers
    [ "2307 1 55 1 2 3 8 4 1 2 50 2 58 3 6 2 2 2 10 1 43 1 58 3 66 1 58 3 8 1 1 2 53 2 58 1 1 1 6",
      "2 2 2 10 1 102 2 1 2 3 3 1 3 10 1 41 3 61 4 61 2 58 7 1 3 1 2 9 2 43 2 58 3 5 3 1 3 10 1 42",
      "2 75 3 6 8 18 2 330 2 63 1 171 2 4 1 6 1 2 2 25 2 10 3 2 7 21 2 2 6 2 1 10 3 1656 1 30 1",
      "129 1 7 8 1 2 346 4 2 3 4 2 1 6 224 2 58 1 1 1 9 1 1 2 8 6 145 1 48 1 5 1 1 5 1 2 61 1 30 1",
      "4 2 2 1 60 1 2 3 1 1 3 2 48 8 8 2 171 1 21 1 35627 2 2 1 88 2 50 16 142 2 47 1 48 2 4 2 2 3",
      "110 2 2 2 24 1 45 1 1 1 109 1 2 2 5 1 237 2 1 2 1 2 1 1 25619 1 1 1 127 1 45 3 4 2 115 1 24",
      "2 59 1 48 3 9 2 13 1 93 3 3 2 1 1 170 3 31 2 58 2 1 4 2 2 2 3 9 1 10 2 209 3 8 2 3 1 106 3",
      "6 1 1 4 2 1 237 3 6 4 2 1 113 3 8 2 1 1 109 1 1 2 6 1 105 2 4 1 261 3 9 1 247 6 1 2 4 1 2 1",
      "1 1 142 3 8 4 4 1 34 2 48 1 29 2 62 1 407 1 14 2 105 1 7 1 2 1 213 5 4 2 1 1 350 2 20570 55",
      "104 2" ]

/-- Letters that run from right to left, apart from those of Arabic. -/
def rightToLeft : CodeSet :=
  runs <| numbers
    [ "1488 27 4 6 459 43 9 2 10 22 4 1 9 1 3 1 23 25 65447 6 2 1 1 44 1 2 3 1 2 23 10 23 9 31 65",
      "19 1 2 10 22 10 26 70 56 6 2 64 1 15 4 1 3 1 29 42 29 3 29 35 8 1 28 27 54 10 22 10 19 13",
      "18 110 73 119 51 397 42 6 2 78 29 10 1 72 18 46 21 27 23 55305 197 93 34 7 1 4 10" ]

def arabicLetters : CodeSet :=
  runs <| numbers
    [ "1568 32 1 10 35 2 1 4 4 91 1 1 15 2 7 2 10 6 16 1 1 30 29 89 11 1 174 11 5 24 1 6 17 42",
      "62889 1 3724 36 524 22" ]

def joiningBoth : CodeSet :=
  runs <| numbers
    [ "1568 1 5 1 1 1 1 5 4 13 1 7 1 2 35 2 9 15 18 38 1 2 9 1 1 1 1 2 40 3 2 1 18 3 5 4 1 9 1 1 1",
      "1 1 2 31 11 3 15 2 4 1 1 2 3 2 6 74 33 86 5 2 1 1 10 1 1 10 1 1 4 2 1 29 1 2 5 18 10 5 2 2",
      "6 1 15 3927 89 14 34 1 1 36757 50 25166 5 14 4 1 5 1 3 159 1 1 1 3 3 1 2 1 1 2 1 368 33 1 1",
      "524 3 1 17 43 4 2 12 46 1 1 2 4 1 2 2 1 2 1 1 2 1 55645 34" ]

def joiningLeft : CodeSet :=
  runs <| numbers
    [ "43122 1 25178 1 9 1 552 1" ]

def joiningRight : CodeSet :=
  runs <| numbers
    [ "1570 4 1 1 1 1 5 4 21 1 40 3 20 18 38 1 2 9 1 1 1 1 2 2 1 1 24 2 32 1 4 5 4 1 9 1 1 1 1 1 2",
      "1 29 1 11 3 15 2 4 1 1 2 3 2 198 1 5 2 1 1 10 1 1 3 14 1 1 2 5 19 11 1 27 3 1 1 2 2 6 1",
      "66059 1 1 1 1 2 3 5 10 1 3 1 2 1 156 1 1 3 3 1 2 1 1 2 1 1 400 1 528 1 64 2 62 3 2 2 2 1 4",
      "2" ]

def greek : CodeSet :=
  runs <| numbers
    [ "881 1 1 1 1 1 1 1 3 3 18 1 27 35 8 1 1 1 1 1 1 1 1 1 1 1 17 1 4 1 2 2 6441 5 469 8 8 6 10 8",
      "8 8 8 6 10 8 8 8 8 1 1 1 1 1 1 1 1 1 1 1 1 1 51 2 4 1 15 1 9 3 3 2 8 3 1 4 14 1 35694 1" ]

def hebrew : CodeSet :=
  runs <| numbers
    [ "1425 45 1 1 1 2 1 2 1 1 8 27 4 6 62761 1" ]

/-- Characters of the scripts Hiragana, Katakana and Han. -/
def japanese : CodeSet :=
  runs <| numbers
    [ "12293 1 1 1 57 86 6 2 2 90 2 2 241 16 512 6592 64 20992 23054 2 1 1 1 2 10 1 1 1 1 2 2 3",
      "30137 1 12 2 16382 4 1 7 1 2 1 291 45 3 17 4 20120 42720 32 4153 7 222 2 5762 14 7473 5151",
      "4939" ]

/-- The combining classes of marks, where they are not zero. -/
def combiningClasses : List (Nat × Nat × Nat) :=
  numberedRuns <| numbers
    [ "768 21 230 0 1 232 0 4 220 0 1 232 0 1 216 0 5 220 0 2 202 0 4 220 0 2 202 0 11 220 0 5 1 0",
      "4 220 0 3 230 2 1 230 3 1 230 0 3 220 0 3 230 0 2 220 1 3 230 0 4 220 0 1 230 0 1 232 0 2",
      "220 0 1 230 0 1 233 0 2 234 0 1 233 0 2 234 0 1 233 0 13 230 275 5 230 265 1 220 0 4 230 0",
      "1 220 0 3 230 0 1 222 0 1 220 0 6 230 0 6 220 0 2 230 0 1 220 0 2 230 0 1 222 0 1 228 0 1",
      "230 0 1 10 0 1 11 0 1 12 0 1 13 0 1 14 0 1 15 0 1 16 0 1 17 0 1 18 0 2 19 0 1 20 0 1 21 0 1",
      "22 1 1 23 1 1 24 0 1 25 1 1 230 0 1 220 1 1 18 72 8 230 0 1 30 0 1 31 0 1 32 48 1 27 0 1 28",
      "0 1 29 0 1 30 0 1 31 0 1 32 0 1 33 0 1 34 0 2 230 0 2 220 0 5 230 0 1 220 0 2 230 0 1 220",
      "16 1 35 101 7 230 2 4 230 0 1 220 0 1 230 2 2 230 1 1 220 0 2 230 0 1 220 35 1 36 30 1 230",
      "0 1 220 0 2 230 0 1 220 0 2 230 0 3 220 0 1 230 0 2 220 0 1 230 0 1 220 0 3 230 0 1 220 0 1",
      "230 0 1 220 0 1 230 0 1 220 0 1 230 0 1 220 0 2 230 160 7 230 0 1 220 0 1 230 9 1 220 24 4",
      "230 1 9 230 1 3 230 1 5 230 43 3 220 60 1 230 0 3 220 0 4 230 42 5 230 0 5 220 0 14 230 1 1",
      "220 0 2 230 0 1 220 0 2 230 0 1 220 0 3 230 0 3 220 0 1 27 0 1 28 0 1 29 0 3 230 0 1 220 0",
      "2 230 0 2 220 0 5 230 60 1 7 16 1 9 3 1 230 0 1 220 0 2 230 103 1 7 16 1 9 48 1 230 61 1 7",
      "16 1 9 110 1 7 16 1 9 110 1 7 16 1 9 127 1 9 110 1 7 16 1 9 7 1 84 0 1 91 101 1 7 16 1 9",
      "109 2 9 16 1 9 124 1 9 109 2 103 0 1 9 13 4 107 108 2 118 0 1 9 13 4 122 76 2 220 27 1 220",
      "1 1 220 1 1 216 55 1 129 0 1 130 1 1 132 5 4 130 2 1 130 1 2 230 0 1 9 1 2 230 62 1 220 112",
      "1 7 1 2 9 82 1 220 719 3 230 948 2 9 30 1 9 157 1 9 10 1 230 203 1 228 143 1 222 0 1 230 0",
      "1 220 219 1 230 0 1 220 71 1 9 20 8 230 2 1 220 48 5 230 0 6 220 0 2 230 0 1 220 1 2 220 0",
      "2 230 0 2 220 0 5 230 0 1 220 0 4 230 101 1 7 15 1 9 38 1 230 0 1 220 0 7 230 54 2 9 58 1 7",
      "11 2 9 67 1 7 152 3 230 1 1 1 0 5 220 0 2 230 0 4 220 0 1 230 1 7 1 4 1 220 6 1 230 3 2 230",
      "198 2 230 0 1 220 0 7 230 0 1 220 0 2 230 0 1 234 0 1 214 0 1 220 0 1 202 0 37 230 0 1 232",
      "0 2 228 0 1 220 0 1 218 0 1 230 0 1 233 0 1 220 0 1 230 0 1 220 3823 3 230 141 1 9 96 32",
      "230 554 1 218 0 1 228 0 1 232 0 1 222 107 2 8 30164 1 230 4 10 230 32 2 230 80 2 230 276 1",
      "9 37 1 9 151 1 9 27 18 230 57 3 220 37 1 9 95 1 7 12 1 9 239 1 230 1 2 230 0 1 220 2 2 230",
      "5 2 230 1 1 230 52 1 9 246 1 9 20272 1 26 769 7 230 0 7 220 0 2 230 973 1 220 226 1 220 149",
      "5 230 1682 1 220 1 1 230 40 1 230 0 1 1 0 1 220 4 1 9 165 1 230 0 1 220 573 4 230 387 2 230",
      "153 2 220 0 3 230 0 1 220 0 1 230 0 4 220 49 1 230 0 1 220 0 1 230 0 1 220 192 1 9 41 1 9",
      "14 1 9 57 1 9 0 1 7 69 3 230 48 2 9 62 1 7 76 1 9 9 1 7 106 1 9 0 1 7 178 1 7 0 1 9 80 2 7",
      "16 1 9 24 7 230 3 5 230 205 1 9 3 1 7 23 1 230 99 1 9 0 1 7 251 1 9 0 1 7 126 1 9 118 1 9 0",
      "1 7 115 1 9 269 1 9 0 1 7 258 2 9 4 1 7 156 1 9 83 1 9 18 1 9 81 1 9 421 1 9 258 1 7 1 2 9",
      "81 1 9 19800 5 1 59 7 230 1209 2 6 19628 1 1 9057 7 230 1 17 230 2 7 230 1 2 230 1 5 230",
      "261 7 230 375 1 230 61 4 230 1504 7 220 109 6 230 0 1 7" ]

def compositions : List (Nat × Nat × Nat) :=
  pairs <| numbers
    [ "224 97 768 1 97 769 1 97 770 1 97 771 1 97 776 1 97 778 2 99 807 1 101 768 1 101 769 1 101",
      "770 1 101 776 1 105 768 1 105 769 1 105 770 1 105 776 2 110 771 1 111 768 1 111 769 1 111",
      "770 1 111 771 1 111 776 3 117 768 1 117 769 1 117 770 1 117 776 1 121 769 2 121 776 2 97",
      "772 2 97 774 2 97 808 2 99 769 2 99 770 2 99 775 2 99 780 2 100 780 4 101 772 2 101 774 2",
      "101 775 2 101 808 2 101 780 2 103 770 2 103 774 2 103 775 2 103 807 2 104 770 4 105 771 2",
      "105 772 2 105 774 2 105 808 6 106 770 2 107 807 3 108 769 2 108 807 2 108 780 6 110 769 2",
      "110 807 2 110 780 5 111 772 2 111 774 2 111 779 4 114 769 2 114 807 2 114 780 2 115 769 2",
      "115 770 2 115 807 2 115 780 2 116 807 2 116 780 4 117 771 2 117 772 2 117 774 2 117 778 2",
      "117 779 2 117 808 2 119 770 2 121 770 3 122 769 2 122 775 2 122 780 35 111 795 15 117 795",
      "30 97 780 2 105 780 2 111 780 2 117 780 2 252 772 2 252 769 2 252 780 2 252 768 3 228 772 2",
      "551 772 2 230 772 4 103 780 2 107 780 2 111 808 2 491 772 2 658 780 1 106 780 5 103 769 4",
      "110 768 2 229 769 2 230 769 2 248 769 2 97 783 2 97 785 2 101 783 2 101 785 2 105 783 2 105",
      "785 2 111 783 2 111 785 2 114 783 2 114 785 2 117 783 2 117 785 2 115 806 2 116 806 4 104",
      "780 8 97 775 2 101 807 2 246 772 2 245 772 2 111 775 2 559 772 2 121 772 349 970 769 28 945",
      "769 1 949 769 1 951 769 1 953 769 1 971 769 26 953 776 1 965 776 1 959 769 1 965 769 1 969",
      "769 107 1080 774 23 1077 768 1 1077 776 2 1075 769 4 1110 776 5 1082 769 1 1080 768 1 1091",
      "774 25 1141 783 75 1078 774 15 1072 774 2 1072 776 4 1077 774 4 1241 776 2 1078 776 2 1079",
      "776 4 1080 772 2 1080 776 2 1086 776 4 1257 776 2 1101 776 2 1091 772 2 1091 776 2 1091 779",
      "2 1095 776 4 1099 776 297 1575 1619 1 1575 1620 1 1608 1620 1 1575 1621 1 1610 1620 154",
      "1749 1620 2 1729 1620 17 1746 1620 598 2344 2364 8 2352 2364 3 2355 2364 151 2503 2494 1",
      "2503 2519 380 2887 2902 3 2887 2878 1 2887 2903 72 2962 3031 54 3014 3006 1 3015 3006 1",
      "3014 3031 124 3142 3158 120 3263 3285 7 3270 3285 1 3270 3286 2 3270 3266 1 3274 3285 127",
      "3398 3390 1 3399 3390 1 3398 3415 142 3545 3530 2 3545 3535 1 3548 3530 1 3545 3551 584",
      "4133 4142 2784 6917 6965 2 6919 6965 2 6921 6965 2 6923 6965 2 6925 6965 4 6929 6965 41",
      "6970 6965 2 6972 6965 3 6974 6965 1 6975 6965 2 6978 6965 702 97 805 2 98 775 2 98 803 2 98",
      "817 2 231 769 2 100 775 2 100 803 2 100 817 2 100 807 2 100 813 2 275 768 2 275 769 2 101",
      "813 2 101 816 2 553 774 2 102 775 2 103 772 2 104 775 2 104 803 2 104 776 2 104 807 2 104",
      "814 2 105 816 2 239 769 2 107 769 2 107 803 2 107 817 2 108 803 2 7735 772 2 108 817 2 108",
      "813 2 109 769 2 109 775 2 109 803 2 110 775 2 110 803 2 110 817 2 110 813 2 245 769 2 245",
      "776 2 333 768 2 333 769 2 112 769 2 112 775 2 114 775 2 114 803 2 7771 772 2 114 817 2 115",
      "775 2 115 803 2 347 775 2 353 775 2 7779 775 2 116 775 2 116 803 2 116 817 2 116 813 2 117",
      "804 2 117 816 2 117 813 2 361 769 2 363 776 2 118 771 2 118 803 2 119 768 2 119 769 2 119",
      "776 2 119 775 2 119 803 2 120 775 2 120 776 2 121 775 2 122 770 2 122 803 2 122 817 1 104",
      "817 1 116 776 1 119 778 1 121 778 8 97 803 2 97 777 2 226 769 2 226 768 2 226 777 2 226 771",
      "2 7841 770 2 259 769 2 259 768 2 259 777 2 259 771 2 7841 774 2 101 803 2 101 777 2 101 771",
      "2 234 769 2 234 768 2 234 777 2 234 771 2 7865 770 2 105 777 2 105 803 2 111 803 2 111 777",
      "2 244 769 2 244 768 2 244 777 2 244 771 2 7885 770 2 417 769 2 417 768 2 417 777 2 417 771",
      "2 417 803 2 117 803 2 117 777 2 432 769 2 432 768 2 432 777 2 432 771 2 432 803 2 121 768 2",
      "121 803 2 121 777 2 121 771 7 945 787 1 945 788 1 7936 768 1 7937 768 1 7936 769 1 7937 769",
      "1 7936 834 1 7937 834 9 949 787 1 949 788 1 7952 768 1 7953 768 1 7952 769 1 7953 769 11",
      "951 787 1 951 788 1 7968 768 1 7969 768 1 7968 769 1 7969 769 1 7968 834 1 7969 834 9 953",
      "787 1 953 788 1 7984 768 1 7985 768 1 7984 769 1 7985 769 1 7984 834 1 7985 834 9 959 787 1",
      "959 788 1 8000 768 1 8001 768 1 8000 769 1 8001 769 11 965 787 1 965 788 1 8016 768 1 8017",
      "768 1 8016 769 1 8017 769 1 8016 834 1 8017 834 9 969 787 1 969 788 1 8032 768 1 8033 768 1",
      "8032 769 1 8033 769 1 8032 834 1 8033 834 9 945 768 2 949 768 2 951 768 2 953 768 2 959 768",
      "2 965 768 2 969 768 52 945 774 1 945 772 5 945 834 16 951 834 10 953 774 1 953 772 1 970",
      "768 4 953 834 1 970 834 9 965 774 1 965 772 1 971 768 2 961 787 1 961 788 1 965 834 1 971",
      "834 15 969 834 4182 12363 12441 2 12365 12441 2 12367 12441 2 12369 12441 2 12371 12441 2",
      "12373 12441 2 12375 12441 2 12377 12441 2 12379 12441 2 12381 12441 2 12383 12441 2 12385",
      "12441 3 12388 12441 2 12390 12441 2 12392 12441 7 12399 12441 1 12399 12442 2 12402 12441 1",
      "12402 12442 2 12405 12441 1 12405 12442 2 12408 12441 1 12408 12442 2 12411 12441 1 12411",
      "12442 23 12358 12441 10 12445 12441 14 12459 12441 2 12461 12441 2 12463 12441 2 12465",
      "12441 2 12467 12441 2 12469 12441 2 12471 12441 2 12473 12441 2 12475 12441 2 12477 12441 2",
      "12479 12441 2 12481 12441 3 12484 12441 2 12486 12441 2 12488 12441 7 12495 12441 1 12495",
      "12442 2 12498 12441 1 12498 12442 2 12501 12441 1 12501 12442 2 12504 12441 1 12504 12442 2",
      "12507 12441 1 12507 12442 23 12454 12441 3 12527 12441 1 12528 12441 1 12529 12441 1 12530",
      "12441 4 12541 12441 57244 69785 69818 2 69787 69818 15 69797 69818 131 69937 69927 1 69938",
      "69927 540 70471 70462 1 70471 70487 367 70841 70842 1 70841 70832 2 70841 70845 252 71096",
      "71087 1 71097 71087 893 71989 71984" ]

/-- Capital letters outside ASCII and the small ones for them. -/
def smallLetters : List (Nat × Nat) :=
  steps <| numbers
    [ "192 23 1 224 2 7 1 248 34 24 2 257 6 2 2 309 3 3 2 314 4 4 2 322 3 23 2 331 2 1 1 255 1 3 2",
      "378 4 1 1 595 1 2 2 387 2 1 1 596 1 1 1 392 2 2 1 598 1 1 1 396 3 1 1 477 1 1 1 601 1 1 1",
      "603 1 1 1 402 2 1 1 608 1 1 1 611 2 1 1 617 1 1 1 616 1 1 1 409 4 1 1 623 1 1 1 626 2 1 1",
      "629 1 3 2 417 2 1 1 640 1 1 1 424 2 1 1 643 3 1 1 429 2 1 1 648 1 1 1 432 2 2 1 650 1 2 2",
      "436 2 1 1 658 1 1 1 441 4 1 1 445 17 8 2 462 3 9 2 479 6 1 1 501 2 1 1 405 1 1 1 447 1 20 2",
      "505 2 1 1 414 2 9 2 547 8 1 1 11365 1 1 1 572 2 1 1 410 1 1 1 11366 3 1 1 578 2 1 1 384 1 1",
      "1 649 1 1 1 652 1 5 2 583 290 2 2 881 4 1 1 887 9 1 1 1011 7 1 1 940 2 3 1 941 2 1 1 972 2",
      "2 1 973 2 17 1 945 2 9 1 963 36 1 1 983 9 12 2 985 6 1 1 952 3 1 1 1016 3 1 1 1019 3 3 1",
      "891 1 16 1 1104 1 32 1 1072 49 17 2 1121 10 27 2 1163 2 1 1 1231 1 7 2 1218 3 48 2 1233 3",
      "38 1 1377 2890 38 1 11520 2 1 1 11559 6 1 1 11565 723 80 1 43888 1 6 1 5112 2203 43 1 4304",
      "3 3 1 4349 321 75 2 7681 10 1 1 223 2 48 2 7841 10 8 1 7936 9 6 1 7952 11 8 1 7968 9 8 1",
      "7984 9 6 1 8000 12 4 2 8017 9 8 1 8032 73 2 1 8112 1 1 1 8048 14 2 2 8050 14 2 1 8144 1 1 1",
      "8054 14 2 1 8160 1 1 1 8058 2 1 1 8165 12 1 1 8056 2 1 1 8060 300 1 1 969 4 1 1 107 1 1 1",
      "229 7 1 1 8526 81 1 1 8580 2685 48 1 11312 49 1 1 11361 2 1 1 619 1 1 1 7549 1 1 1 637 3 3",
      "2 11368 2 1 1 593 1 1 1 625 1 1 1 592 1 1 1 594 2 1 1 11379 3 1 1 11382 9 2 1 575 1 50 2",
      "11393 9 2 2 11500 5 1 1 11507 31054 23 2 42561 20 14 2 42625 136 7 2 42787 4 31 2 42803 11",
      "2 2 42874 2 1 1 7545 1 5 2 42879 5 1 1 42892 2 1 1 613 3 2 2 42897 4 10 2 42903 2 1 1 614 1",
      "1 1 604 1 1 1 609 1 1 1 620 1 1 1 618 2 1 1 670 1 1 1 647 1 1 1 669 1 1 1 43859 1 8 2 42933",
      "2 1 1 42900 1 1 1 642 1 1 1 7566 1 2 2 42952 7 1 1 42961 6 2 2 42967 29 1 1 42998 23563 40",
      "1 66600 137 36 1 66776 157 11 1 66967 2 15 1 66979 2 7 1 66995 2 2 1 67003 1771 51 1 68800",
      "3054 32 1 71872 21889 32 1 93792 31393 34 1 125218" ]

end ArrivalRates.Url.DomainName
