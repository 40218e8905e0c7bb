import VenueGateway.Text.Blank

/-!
The terms of an order: which side it takes, what kind it is and how long it stands. Each has a fixed
number at the venue. Names are read without regard to surrounding blanks and case, and one that is
not known is kept as unknown.
-/

namespace VenueGateway

inductive Side where
  | buy
  | sell
  | short
  | unknown
  deriving DecidableEq, Repr

namespace Side

instance : Inhabited Side := ⟨unknown⟩

def ofName (name : String) : Side :=
  match Text.lower (Text.trim name) with
  | "buy" => buy
  | "sell" => sell
  | "short" => short
  | _ => unknown

def code : Side → Int32
  | buy => 0
  | sell => 1
  | short => 2
  | unknown => 3

def name : Side → String
  | buy => "Buy"
  | sell => "Sell"
  | short => "Short"
  | unknown => "Unknown"

end Side

inductive OrderKind where
  | unknown
  | market
  | limit
  | stopMarket
  | stopLimit
  | trailingStopMarket
  | trailingStopLimit
  | blockTrade
  deriving DecidableEq, Repr

namespace OrderKind

instance : Inhabited OrderKind := ⟨unknown⟩

def ofName (name : String) : OrderKind :=
  match Text.lower (Text.trim name) with
  | "marketorder" => market
  | "market" => market
  | "limit" => limit
  | "stopmarket" => stopMarket
  | "stoplimit" => stopLimit
  | "trailingstopmarket" => trailingStopMarket
  | "trailingstoplimit" => trailingStopLimit
  | "blocktrade" => blockTrade
  | _ => unknown

def code : OrderKind → Int32
  | unknown => 0
  | market => 1
  | limit => 2
  | stopMarket => 3
  | stopLimit => 4
  | trailingStopMarket => 5
  | trailingStopLimit => 6
  | blockTrade => 7

def name : OrderKind → String
  | unknown => "Unknown"
  | market => "MarketOrder"
  | limit => "Limit"
  | stopMarket => "StopMarket"
  | stopLimit => "StopLimit"
  | trailingStopMarket => "TrailingStopMarket"
  | trailingStopLimit => "TrailingStopLimit"
  | blockTrade => "BlockTrade"

/-- Whether a limit price goes with the order. -/
def hasLimitPrice : OrderKind → Bool
  | limit => true
  | stopLimit => true
  | trailingStopLimit => true
  | _ => false

end OrderKind

/-- How long an order stands. -/
inductive TimeInForce where
  | unknown
  | goodTillCanceled
  | atOpening
  | immediateOrCancel
  | fillOrKill
  | goodTillCrossing
  | goodTillDate
  deriving DecidableEq, Repr

namespace TimeInForce

instance : Inhabited TimeInForce := ⟨unknown⟩

def code : TimeInForce → Int32
  | unknown => 0
  | goodTillCanceled => 1
  | atOpening => 2
  | immediateOrCancel => 3
  | fillOrKill => 4
  | goodTillCrossing => 5
  | goodTillDate => 6

end TimeInForce

end VenueGateway
