import Fabricate.Generator.DateTime
import Fabricate.Generator.Lorem
import Fabricate.Generator.Pattern
import Fabricate.Generator.Person
import Fabricate.Generator.Place
import Fabricate.Generator.Registry

/-!
# The standard registry

The generators that are always there, and the other names they go by. Those of `plain` do not look
at the locale; those of `sourced` are made of the texts of a source, but for the names of colours.
-/

namespace Fabricate.Generator

/-- Numbers, identifiers, dates and patterns. -/
def plain : List Generator :=
  [intRange "random_int" "min" "max",
    intRange "pyint" "min_value" "max_value",
    randomDigit,
    randomNumber,
    realNumber "pyfloat",
    realNumber "pydecimal",
    chance "pybool" "truth_probability",
    chance "boolean" "chance_of_getting_true",
    uuid4,
    coordinate "latitude" 90,
    coordinate "longitude" 180,
    date,
    dateBetween,
    dateOfBirth,
    dateTime,
    dateTimeBetween,
    iso8601,
    unixTime,
    time,
    year,
    month,
    randomElement,
    randomLetter,
    pattern "numerify" "###" true false,
    pattern "lexify" "????" false true,
    pattern "bothify" "## ??" true true,
    ssn]

/-- Words, sentences and texts. -/
def lorem (source : TextSource) : List Generator :=
  [word source, words source, sentence source, paragraph source, text source, slug source]

/-- Texts about persons, places and things, and prose. -/
def sourced (source : TextSource) : List Generator :=
  person source ++ internet source ++ address source ++ company source ++ lorem source ++
    phone source ++ color source ++ finance source ++ filesystem source

/-- The other names of the standard generators, each with its canonical name. -/
def standardAliases : List (String × String) :=
  [("full_name", "name"), ("person", "name"), ("username", "user_name"), ("user", "user_name"),
    ("mail", "email"), ("phone", "phone_number"), ("telephone", "phone_number"),
    ("mobile", "cell_number"), ("street", "street_address"), ("zip", "zipcode"),
    ("postal", "postcode"), ("website", "url"), ("domain", "domain_name"), ("ip", "ipv4"),
    ("datetime", "date_time"), ("timestamp", "unix_time"), ("number", "random_int"),
    ("integer", "random_int"), ("float", "pyfloat"), ("decimal", "pydecimal"),
    ("profession", "job"), ("color", "color_name"), ("uuid", "uuid4"), ("guid", "uuid4"),
    ("bool", "pybool")]

end Fabricate.Generator

namespace Fabricate.Registry

/-- The registry of the standard generators and their aliases, with the texts of a source. -/
def standard (source : TextSource) : Registry :=
  let generators := (Generator.sourced source ++ Generator.plain).foldl Registry.register .empty
  Generator.standardAliases.foldl (fun r (name, target) => r.addAlias name target) generators

end Fabricate.Registry
