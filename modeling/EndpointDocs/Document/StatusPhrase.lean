import EndpointDocs.Text.Basic

/-!
# Phrases of status codes

Most status codes of responses have a phrase that says what they mean.  It is shown behind the code.
-/

namespace EndpointDocs

def statusPhrases : List (UInt16 × Text) :=
  [(100, "Continue".toList),
   (101, "Switching Protocols".toList),
   (102, "Processing".toList),
   (103, "Early Hints".toList),
   (200, "OK".toList),
   (201, "Created".toList),
   (202, "Accepted".toList),
   (203, "Non-Authoritative Information".toList),
   (204, "No Content".toList),
   (205, "Reset Content".toList),
   (206, "Partial Content".toList),
   (207, "Multi-Status".toList),
   (208, "Already Reported".toList),
   (226, "IM Used".toList),
   (300, "Multiple Choices".toList),
   (301, "Moved Permanently".toList),
   (302, "Found".toList),
   (303, "See Other".toList),
   (304, "Not Modified".toList),
   (305, "Use Proxy".toList),
   (307, "Temporary Redirect".toList),
   (308, "Permanent Redirect".toList),
   (400, "Bad Request".toList),
   (401, "Unauthorized".toList),
   (402, "Payment Required".toList),
   (403, "Forbidden".toList),
   (404, "Not Found".toList),
   (405, "Method Not Allowed".toList),
   (406, "Not Acceptable".toList),
   (407, "Proxy Authentication Required".toList),
   (408, "Request Timeout".toList),
   (409, "Conflict".toList),
   (410, "Gone".toList),
   (411, "Length Required".toList),
   (412, "Precondition Failed".toList),
   (413, "Request Entity Too Large".toList),
   (414, "Request URI Too Long".toList),
   (415, "Unsupported Media Type".toList),
   (416, "Requested Range Not Satisfiable".toList),
   (417, "Expectation Failed".toList),
   (418, "I'm a teapot".toList),
   (421, "Misdirected Request".toList),
   (422, "Unprocessable Entity".toList),
   (423, "Locked".toList),
   (424, "Failed Dependency".toList),
   (425, "Too Early".toList),
   (426, "Upgrade Required".toList),
   (428, "Precondition Required".toList),
   (429, "Too Many Requests".toList),
   (431, "Request Header Fields Too Large".toList),
   (451, "Unavailable For Legal Reasons".toList),
   (500, "Internal Server Error".toList),
   (501, "Not Implemented".toList),
   (502, "Bad Gateway".toList),
   (503, "Service Unavailable".toList),
   (504, "Gateway Timeout".toList),
   (505, "HTTP Version Not Supported".toList),
   (506, "Variant Also Negotiates".toList),
   (507, "Insufficient Storage".toList),
   (508, "Loop Detected".toList),
   (510, "Not Extended".toList),
   (511, "Network Authentication Required".toList)]

/-- The phrase of a status code, empty if it has none. -/
def statusPhrase (code : UInt16) : Text :=
  (statusPhrases.lookup code).getD []

end EndpointDocs
