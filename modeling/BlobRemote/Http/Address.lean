import BlobRemote.Text.Percent

/-!
# Addresses of blobs

The URL of a blob: the endpoint, the bucket, the key, and what else is asked for. Bucket and key are
encoded by different rules, for the slashes of a key stay and those of a bucket do not, and a query is
encoded by a third one.
-/

namespace BlobRemote

namespace Address

/-- A field of a query. -/
def queryField (field : String × String) : List Char :=
  Percent.encodeQuery field.1.toList ++ '=' :: Percent.encodeQuery field.2.toList

/-- The fields of a query, behind a question mark if there are any. -/
def query (fields : List (String × String)) : List Char :=
  if fields = [] then [] else '?' :: ['&'].intercalate (fields.map queryField)

/-- A key in its place behind a bucket. -/
def keyPart (key : String) : List Char :=
  if key = "" then [] else '/' :: Percent.encodePath key.toList

/-- **The URL of a key** in a bucket, with the fields of a query. -/
def url (endpoint bucket key : String) (fields : List (String × String)) : String :=
  String.ofList (endpoint.toList ++ '/' :: Percent.encodePart bucket.toList ++ keyPart key ++
    query fields)

end Address

end BlobRemote
