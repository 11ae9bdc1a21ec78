import Wayfare.Client.Dispatch

/-!
The catalogue of resources: what is offered under which name, with which verb and at which path.
-/
namespace Wayfare

/-- The paths of collections. -/
def flightOffersPath : String := "/v2/shopping/flight-offers"
def flightDestinationsPath : String := "/v1/shopping/flight-destinations"
def flightDatesPath : String := "/v1/shopping/flight-dates"
def flightOrdersPath : String := "/v1/booking/flight-orders"
def airlinesPath : String := "/v1/reference-data/airlines"
def locationsPath : String := "/v1/reference-data/locations"

/-- An operation on a collection, with parameters. -/
inductive CollectionOp where
  | searchFlightOffers
  | postFlightOffers
  | flightDestinations
  | flightDates
  | postFlightOrder
  | airlines
  | locations
  | airports
  deriving DecidableEq, Repr

/-- An operation on one item, without parameters. -/
inductive ItemOp where
  | getFlightOrder
  | deleteFlightOrder
  | getLocation
  deriving DecidableEq, Repr

namespace CollectionOp

def all : List CollectionOp :=
  [.searchFlightOffers, .postFlightOffers, .flightDestinations, .flightDates, .postFlightOrder,
    .airlines, .locations, .airports]

/-- The name: namespace, resource and verb. -/
def name : CollectionOp → String
  | .searchFlightOffers => "shopping.flight_offers_search.get"
  | .postFlightOffers => "shopping.flight_offers_search.post"
  | .flightDestinations => "shopping.flight_destinations.get"
  | .flightDates => "shopping.flight_dates.get"
  | .postFlightOrder => "booking.flight_orders.post"
  | .airlines => "reference_data.airlines.get"
  | .locations => "reference_data.locations.get"
  | .airports => "reference_data.locations.airports"

def ofName? (s : String) : Option CollectionOp :=
  all.find? (·.name == s)

def verb : CollectionOp → Verb
  | .postFlightOffers | .postFlightOrder => .post
  | _ => .get

def path : CollectionOp → String
  | .searchFlightOffers | .postFlightOffers => flightOffersPath
  | .flightDestinations => flightDestinationsPath
  | .flightDates => flightDatesPath
  | .postFlightOrder => flightOrdersPath
  | .airlines => airlinesPath
  | .locations => locationsPath
  | .airports => locationsPath ++ "/airports"

end CollectionOp

namespace ItemOp

def all : List ItemOp := [.getFlightOrder, .deleteFlightOrder, .getLocation]

def name : ItemOp → String
  | .getFlightOrder => "booking.flight_order.get"
  | .deleteFlightOrder => "booking.flight_order.delete"
  | .getLocation => "reference_data.location.get"

def ofName? (s : String) : Option ItemOp :=
  all.find? (·.name == s)

def verb : ItemOp → Verb
  | .deleteFlightOrder => .delete
  | _ => .get

/-- The path of the collection that holds the item. -/
def collection : ItemOp → String
  | .getFlightOrder | .deleteFlightOrder => flightOrdersPath
  | .getLocation => locationsPath

/-- The name of the parameter that identifies the item. -/
def parameter : ItemOp → String
  | .getFlightOrder | .deleteFlightOrder => "order_id"
  | .getLocation => "location_id"

/-- The path of an item; its identifier must not be blank. -/
def path (op : ItemOp) (id : String) : Except CallError String :=
  if Text.allBlank id then .error (.missingParameter op.parameter)
  else .ok (op.collection ++ "/" ++ id)

end ItemOp

namespace Client

/-- An operation on a collection. -/
def collection [Body α] (client : Client) (network : Network σ) (op : CollectionOp)
    (payload : Payload) : Action σ (Response α) :=
  client.call network op.verb op.path payload

/-- An operation on an item. -/
def item [Body α] (client : Client) (network : Network σ) (op : ItemOp) (id : String) :
    Action σ (Response α) := fun session =>
  match op.path id with
  | .error e => .still session (some (.error e))
  | .ok path => client.call network op.verb path (.document .null) session

end Client

end Wayfare
