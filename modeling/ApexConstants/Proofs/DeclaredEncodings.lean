import ApexConstants.Xml.Reader

namespace ApexConstants.Xml

end ApexConstants.Xml
