/-! # Vocabulary

The IRIs of the RDF, RDFS, XML Schema and SHACL vocabularies that the library looks for.
-/

namespace ShaclQuery.Vocabulary

def rdf (name : String) : String := "http://www.w3.org/1999/02/22-rdf-syntax-ns#" ++ name

def rdfs (name : String) : String := "http://www.w3.org/2000/01/rdf-schema#" ++ name

def xsd (name : String) : String := "http://www.w3.org/2001/XMLSchema#" ++ name

def sh (name : String) : String := "http://www.w3.org/ns/shacl#" ++ name

end ShaclQuery.Vocabulary
