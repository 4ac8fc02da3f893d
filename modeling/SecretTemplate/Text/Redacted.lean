namespace SecretTemplate.Text

/-- The first two and the last two characters of a text of more than six, and nothing of a shorter
    one. -/
def redact (value : String) : String :=
  let cs := value.toList
  if cs.length ≤ 6 then "***"
  else String.ofList (cs.take 2 ++ ['…'] ++ cs.drop (cs.length - 2))

end SecretTemplate.Text
