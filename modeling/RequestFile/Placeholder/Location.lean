import RequestFile.Text.Quoted

/-!
This module contains the places of a request where placeholders can stand.
-/

namespace RequestFile.Placeholder

/--
A place of a request. Names and keys are kept as spelled, so two places are the same only if they are
spelled the same.
-/
inductive Location where
  | url
  | header (name : String)
  | query (key : String)
  | form (key : String)
  | body
  deriving DecidableEq, Repr

namespace Location

def text : Location → String
  | url => "url"
  | header name => "headers[" ++ name ++ "]"
  | query key => "query_params[" ++ key ++ "]"
  | form key => "body[" ++ key ++ "]"
  | body => "body"

def description : Location → String
  | url => "UrlLocation()"
  | header name => "HeaderLocation(name=" ++ Text.Quoted.text name ++ ")"
  | query key => "QueryParamLocation(key=" ++ Text.Quoted.text key ++ ")"
  | form key => "BodyFormLocation(key=" ++ Text.Quoted.text key ++ ")"
  | body => "BodyLocation()"

end Location

end RequestFile.Placeholder
