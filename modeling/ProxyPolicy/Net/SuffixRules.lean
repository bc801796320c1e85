import ProxyPolicy.Net.Suffix

/-!
# A list of public suffixes

The rules that the command line is run with. They are an excerpt of the public suffix list, which
has more than nine thousand rules; what is said of hosts elsewhere is said for every list.
-/

namespace ProxyPolicy.Net

/-- The rules, as a suffix list writes them. The whole list has more rules below the suffixes given
here: `org.uk` is one of them, so that by the whole list `www.example.org.uk` belongs to
`example.org.uk`, and by this excerpt to `org.uk`. -/
def suffixRuleTexts : List String :=
  ["!city.kawasaki.jp", "!www.ck", "*.ck", "*.compute.amazonaws.com", "*.elb.amazonaws.com",
    "*.kawasaki.jp", "*.mm", "*.nom.br", "*.np", "*.sch.uk", "ac.uk", "arpa", "au", "blogspot.com",
    "br", "cc", "city", "cloudfront.net", "cn", "co", "co.com", "co.io", "co.jp", "co.uk", "com",
    "com.br", "com.cn", "com.de", "de", "dev", "edu.au", "eu.org", "foo", "github.io", "gov", "gr",
    "herokuapp.com", "host", "in-addr.arpa", "io", "ip6.arpa", "jp", "k12.ma.us", "ma.us", "ne.jp",
    "net", "no", "nsw.edu.au", "onion", "org", "pages.dev", "priv.no", "pvt.k12.ma.us",
    "s3.amazonaws.com", "tokyo.jp", "uk", "uk.com", "us", "xn--55qx5d.cn", "xn--fiqs8s", "xn--p1ai",
    "рф", "中国", "公司.cn"]

/-- The rules. -/
def suffixRules : List SuffixRule := suffixRuleTexts.map SuffixRule.ofText

end ProxyPolicy.Net
