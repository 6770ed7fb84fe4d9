import PriorArt.Text.Basic

/-!
# Tokens for entities without a name

An entity that nobody named gets a token of characters picked from a stock. The picks follow an
unending sequence of numbers, so that a source is a value like any other: the same source gives
the same tokens. A token that is taken is thrown away, and the next one is drawn.

Among all tokens that a sequence yields there need not be a free one, so a search has a bound.
-/

namespace PriorArt

/-- A source of tokens, with the place that its sequence has come to. -/
structure TokenSource where
  /-- The number of characters of a token. -/
  length : Nat
  /-- The characters to pick from. -/
  stock : Text
  /-- The numbers that decide the picks. -/
  numbers : Nat → Nat
  /-- How many numbers have been used. -/
  used : Nat
  length_pos : 0 < length
  stock_pos : 0 < stock.length

/-- Why there is no source of the wanted kind. -/
inductive TokenSourceError where
  | noLength
  | noStock
  deriving DecidableEq, Repr

/-- The message for a missing source. -/
def TokenSourceError.message : TokenSourceError → String
  | .noLength => "Token length must be at least 1"
  | .noStock => "Token charset must not be empty"

namespace TokenSource

/-- So many characters from a first one on. -/
def charactersFrom (first : Char) (count : Nat) : Text :=
  (List.range count).map (fun offset => Char.ofNat (first.toNat + offset))

/-- Capitals, small letters and digits of ASCII. -/
def standardStock : Text :=
  charactersFrom 'A' 26 ++ charactersFrom 'a' 26 ++ charactersFrom '0' 10

/-- The usual number of characters of a token. -/
def standardLength : Nat := 5

/-- A source at the start of its sequence. -/
def make (length : Int) (stock : Text) (numbers : Nat → Nat) :
    Except TokenSourceError TokenSource :=
  if positive : 0 < length.toNat then
    if stocked : 0 < stock.length then .ok ⟨length.toNat, stock, numbers, 0, positive, stocked⟩
    else .error .noStock
  else .error .noLength

/-- The usual source on a sequence. -/
def standard (numbers : Nat → Nat) : TokenSource :=
  ⟨standardLength, standardStock, numbers, 0, by decide, by decide⟩

/-- The character that the number at a place picks. -/
def pick (source : TokenSource) (place : Nat) : Char :=
  source.stock.get ⟨source.numbers place % source.stock.length, Nat.mod_lt _ source.stock_pos⟩

/-- The next token, taken or not. -/
def draw (source : TokenSource) : Text × TokenSource :=
  ((List.range source.length).map (fun offset => source.pick (source.used + offset)),
    { source with used := source.used + source.length })

/-- The first of the next tokens that is not taken, if there is one among so many. -/
def drawFree (taken : Text → Bool) : Nat → TokenSource → Option Text × TokenSource
  | 0, source => (none, source)
  | attempts + 1, source =>
    let (token, next) := source.draw
    if taken token then drawFree taken attempts next else (some token, next)

/-- How many tokens a search draws before it gives up. -/
def patience : Nat := 4294967296

end TokenSource

/-- How many states the linear congruential sequence has. -/
def congruentialStates : Nat := 2147483648

/-- The states of the linear congruential sequence. -/
def congruentialState (seed : Nat) : Nat → Nat
  | 0 => seed
  | steps + 1 => (congruentialState seed steps * 1103515245 + 12345) % congruentialStates

/-- The linear congruential sequence without its low sixteen bits, which repeat after few
steps. -/
def congruential (seed : Nat) (place : Nat) : Nat := congruentialState seed (place + 1) / 65536

/-- Given numbers, continued by a linear congruential sequence. -/
def continued (numbers : List Nat) (seed : Nat) (place : Nat) : Nat :=
  numbers.getD place (congruential seed (place - numbers.length))

end PriorArt
