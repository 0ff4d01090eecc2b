import TypestateBuilders.Model.HttpMethod
import TypestateBuilders.Value.GivenText

/-!
# Operations

What an interface description says about one operation: its parameters with their places in the
request, the format in which repeated values are sent, its response and the coders for its payload.
-/

set_option autoImplicit false
set_option relaxedAutoImplicit false

namespace TypestateBuilders

/-- The type path of a file that is sent as a parameter or received as a response. -/
def fileMarker : String :=
  "FILE"

/-- The name of the type parameter that stands for dynamically typed values. -/
def anyParameter : String :=
  "Any"

/-- Where in a request a parameter is sent. -/
inductive ParameterLocation
  | path
  | query
  | header
  | formData
  | body
  deriving DecidableEq, Repr

namespace ParameterLocation

/-- All locations. -/
def all : List ParameterLocation :=
  [path, query, header, formData, body]

/-- The name of a location. -/
def name : ParameterLocation → String
  | path => "path"
  | query => "query"
  | header => "header"
  | formData => "formData"
  | body => "body"

/-- The location with a name. -/
def ofName? (text : String) : Option ParameterLocation :=
  all.find? fun location ↦ location.name == text

end ParameterLocation

/-- How the values of an array are joined into one parameter. -/
inductive CollectionFormat
  | csv
  | ssv
  | tsv
  | pipes
  | multi
  deriving DecidableEq, Repr

namespace CollectionFormat

/-- All formats. -/
def all : List CollectionFormat :=
  [csv, ssv, tsv, pipes, multi]

/-- The name of a format, which is also the name of its marker type in the helper module. -/
def name : CollectionFormat → String
  | csv => "Csv"
  | ssv => "Ssv"
  | tsv => "Tsv"
  | pipes => "Pipes"
  | multi => "Multi"

/-- The format with a name. -/
def ofName? (text : String) : Option CollectionFormat :=
  all.find? fun format ↦ format.name == text

end CollectionFormat

/-- The encoder and decoder for one media range. -/
structure Coder where
  /-- The path of the encoder. -/
  encoderPath : String
  /-- The path of the decoder. -/
  decoderPath : String
  /-- The path of the error of both. -/
  errorPath : String
  /-- The type that stands for `Any` in what is decoded, unless it is false. -/
  anyValue : Value
  /-- Whether this coder goes before others of its range. -/
  prefer : Bool := false
  deriving Repr

/-- The response of an operation. -/
structure Response where
  /-- The type of the response; a response without one is dynamically typed. -/
  tyPath : Value := .null
  /-- Whether the type holds dynamically typed values. -/
  containsAny : Bool := false
  deriving Repr

/-- Whether a response is a file. -/
def Response.isFile (response : Response) : Bool :=
  match response.tyPath with
  | .text ty => ty = fileMarker
  | _ => false

/-- A parameter of an operation. -/
structure Parameter where
  /-- The name on the wire. -/
  name : String
  /-- The type of the value. -/
  tyPath : String
  /-- What the description says about it. -/
  description : GivenText := .absent
  /-- Whether a request must have it. -/
  required : Bool := false
  /-- Where it is sent. -/
  location : ParameterLocation := .query
  /-- The formats of nested arrays, outermost first. -/
  delimiting : List CollectionFormat := []
  deriving DecidableEq, Repr

/-- What one operation needs and answers. -/
structure Operation where
  /-- The name that the description gives to the operation. -/
  id : GivenText := .absent
  /-- What the description says about it. -/
  description : GivenText := .absent
  /-- Whether it should no longer be used. -/
  deprecated : Bool := false
  /-- The parameters of this operation alone. -/
  params : List Parameter := []
  /-- Whether a request carries the object as its body. -/
  bodyRequired : Bool := false
  /-- Whether it answers a list of its response type. -/
  listable : Bool := false
  /-- What it answers. -/
  response : Response := {}
  /-- The media range of request bodies and the coder for it. -/
  encoding : Option (String × Coder) := none
  /-- The media range of response bodies and the coder for it. -/
  decoding : Option (String × Coder) := none
  deriving Repr

end TypestateBuilders
